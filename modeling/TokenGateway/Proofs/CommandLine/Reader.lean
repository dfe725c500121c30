import TokenGateway.CommandLine.Reader
import TokenGateway.Proofs.CommandLine.Hyphen

namespace TokenGateway.CommandLine

inductive Item
  | apart (option : Opt) (value : String) (takesValue : option.takesValue)
  | joined (option : Opt) (value : String) (takesValue : option.takesValue)
  | flag

namespace Item

def option : Item → Opt
  | apart option _ _ => option
  | joined option _ _ => option
  | flag => .logJson

def value : Item → String
  | apart _ value _ => value
  | joined _ value _ => value
  | flag => "true"

def arguments : Item → List String
  | apart option value _ => ["--" ++ option.longName, value]
  | joined option value _ => ["--" ++ option.longName ++ "=" ++ value]
  | flag => ["--" ++ Opt.logJson.longName]

def isHyphenated : Item → Bool
  | apart _ value _ => value.toList.head? == some '-'
  | _ => false

end Item

/--
Whether a command line and an environment give each option the text that an assignment has for it:
by an item of the command line, or by the environment if no item is about the option. What the
environment has for an option of the command line is left open.
-/
structure Supplies (items : List Item) (env : Environment) (texts : Opt → Option String)
    : Prop where
  once : (items.map Item.option).Nodup
  onLine : ∀ item ∈ items, texts item.option = some item.value
  elsewhere : ∀ o ∉ items.map Item.option, env o.envName = texts o

variable {cs : List Char} {o : Opt} {text : String} {texts : Opt → Option String}
  {p : Progress} {g g' : Given} {item : Item} {items : List Item} {env : Environment}

section Forms

theorem ofChars_of_hyphens (hcs : cs ≠ [])
    : Argument.ofChars ('-' :: '-' :: cs)
        =
      match Text.cutAt? '=' cs with
      | some (name, value) => .long (String.ofList name) (some (String.ofList value))
      | none => .long (String.ofList cs) none := by
  cases cs with
  | nil => exact absurd rfl hcs
  | cons c cs => rfl

theorem ofChars_longName (o : Opt)
    : Argument.ofChars ("--" ++ o.longName).toList = .long o.longName none := by
  cases o <;> rfl

theorem ofChars_joined (o : Opt) (text : String)
    : Argument.ofChars ("--" ++ o.longName ++ "=" ++ text).toList
        =
      .long o.longName (some text) := by
  have hname : '=' ∉ o.longName.toList := by
    cases o <;> decide
  have hchars : ("--" ++ o.longName ++ "=" ++ text).toList
      = '-' :: '-' :: (o.longName.toList ++ '=' :: text.toList) := by
    simp [String.toList_append]
  rw [hchars, ofChars_of_hyphens (by simp), Text.cutAt?_append hname]
  simp

theorem ofChars_plain (hcs : cs.head? ≠ some '-')
    : Argument.ofChars cs = .plain (String.ofList cs) := by
  unfold Argument.ofChars
  split
  . exact absurd rfl hcs
  . exact absurd rfl hcs
  . exact absurd rfl hcs
  . rfl

theorem ofLong?_longName (o : Opt) : Name.ofLong? o.longName = some (.setting o) := by
  cases o <;> rfl

end Forms

namespace Progress

def take (p : Progress) : Argument → Except Error Progress
  | .endOfOptions => .ok p
  | .long name value? => p.takeLong name value?
  | .short c => p.takeShort c
  | .plain text => p.takePlain text

end Progress

theorem readArguments_cons {form : Argument} (hform : Argument.ofChars text.toList = form)
    (hgoes : form ≠ .endOfOptions) (rest : List String)
    : readArguments p (text :: rest) = (p.take form).bind fun p => readArguments p rest := by
  rw [readArguments.eq_def]
  dsimp only
  rw [hform]
  cases form with
  | endOfOptions => exact absurd rfl hgoes
  | _ => rfl

namespace Progress

theorem settle_of_fresh (hfresh : g.has o = false) : settle g o text = g.store o text := by
  rw [settle, hfresh]
  rfl

variable (hresolve : p.resolve = .ok g)

include hresolve

theorem takeLong_apart (htakes : o.takesValue)
    : p.takeLong o.longName none = .ok ⟨g, .awaiting o⟩ := by
  unfold takeLong
  rw [ofLong?_longName, hresolve]
  simp [htakes]

theorem takeLong_joined (htakes : o.takesValue) (hsettle : settle g o text = .ok g')
    : p.takeLong o.longName (some text) = .ok ⟨g', .nothing⟩ := by
  unfold takeLong
  rw [ofLong?_longName, hresolve]
  simp [htakes, hsettle]

theorem takeLong_flag (hsettle : settle g .logJson "true" = .ok g')
    : p.takeLong Opt.logJson.longName none = .ok ⟨g', .nothing⟩ := by
  unfold takeLong
  rw [ofLong?_longName, hresolve]
  simp [Opt.takesValue, hsettle]

end Progress

section Step

variable (hresolve : p.resolve = .ok g)

include hresolve

theorem readArguments_item (hfresh : g.has item.option = false)
    (hstore : g.store item.option item.value = .ok g') (hplain : item.isHyphenated = false)
    (rest : List String)
    : ∃ p' : Progress, p'.resolve = .ok g'
        ∧ readArguments p (item.arguments ++ rest) = readArguments p' rest := by
  rw [← Progress.settle_of_fresh hfresh] at hstore
  cases item with
  | apart option value takesValue =>
    have hvalue : value.toList.head? ≠ some '-' := by
      simpa [Item.isHyphenated] using hplain
    have hform : Argument.ofChars value.toList = .plain value := by
      rw [ofChars_plain hvalue, String.ofList_toList]
    -- The value is held back until the next item, which makes no difference to what is given.
    refine ⟨⟨g, .holding option value⟩, hstore, ?_⟩
    rw [Item.arguments, List.cons_append, readArguments_cons (ofChars_longName option) (by simp),
      Progress.take, Progress.takeLong_apart hresolve takesValue]
    exact readArguments_cons hform (by simp) rest
  | joined option value takesValue =>
    refine ⟨⟨g', .nothing⟩, rfl, ?_⟩
    have htake : p.takeLong option.longName (some value) = .ok ⟨g', .nothing⟩ :=
      Progress.takeLong_joined hresolve takesValue hstore
    rw [Item.arguments, List.cons_append,
      readArguments_cons (ofChars_joined option value) (by simp), Progress.take, htake]
    rfl
  | flag =>
    refine ⟨⟨g', .nothing⟩, rfl, ?_⟩
    have htake : p.takeLong Opt.logJson.longName none = .ok ⟨g', .nothing⟩ :=
      Progress.takeLong_flag hresolve hstore
    rw [Item.arguments, List.cons_append, readArguments_cons (ofChars_longName .logJson) (by simp),
      Progress.take, htake]
    rfl

theorem readArguments_hyphenated {v : item.option.Value}
    (hread : item.option.read? item.value = some v) (hhyphen : item.isHyphenated)
    (rest : List String)
    : readArguments p (item.arguments ++ rest) = .error (.unknown "-0") := by
  cases item with
  | apart option value takesValue =>
    rw [Item.isHyphenated, beq_iff_eq, List.head?_eq_some_iff] at hhyphen
    rcases hhyphen with ⟨cs, hvalue⟩
    rcases (Opt.eq_maxConnections_of_hyphen hvalue hread).2 with ⟨zeros, rfl⟩
    have hform : Argument.ofChars value.toList = .short '0' := by
      rw [hvalue]
      rfl
    rw [Item.arguments, List.cons_append, readArguments_cons (ofChars_longName option) (by simp),
      Progress.take, Progress.takeLong_apart hresolve takesValue]
    exact readArguments_cons hform (by simp) rest
  | joined option value takesValue => cases hhyphen
  | flag => cases hhyphen

end Step

section Run

theorem readArguments_items (htexts : IsAssignment texts) (items : List Item)
    : ∀ (p : Progress) (g : Given),
        p.resolve = .ok g
          →
        (items.map Item.option).Nodup
          →
        (∀ item ∈ items, g.has item.option = false ∧ texts item.option = some item.value)
          →
        readArguments p (items.flatMap Item.arguments)
          =
        if items.any Item.isHyphenated then
          .error (.unknown "-0")
        else
          .ok (g.supplement (items.map Item.option) texts) := by
  induction items with
  | nil =>
    intro p g hresolve _ _
    rw [List.map_nil, Given.supplement_nil]
    exact hresolve
  | cons item items ih =>
    intro p g hresolve hnodup hitems
    rw [List.map_cons, List.nodup_cons] at hnodup
    rw [List.forall_mem_cons] at hitems
    rcases hitems with ⟨⟨hfresh, htext⟩, hitems⟩
    rcases htexts.exists_read? htext with ⟨v, hv⟩
    rw [List.flatMap_cons]
    cases hhyphen : item.isHyphenated with
    | true =>
      rw [readArguments_hyphenated hresolve hv hhyphen, List.any_cons, hhyphen]
      rfl
    | false =>
      have hstore := Given.store_of_read? (g := g) hv
      rcases readArguments_item hresolve hfresh hstore hhyphen (items.flatMap Item.arguments) with
        ⟨p', hresolve', hrest⟩
      -- The options of the other items are not touched by this one.
      have hitems' : ∀ item' ∈ items, (g.set item.option v).has item'.option = false
          ∧ texts item'.option = some item'.value := by
        intro item' hmem
        have hne : item'.option ≠ item.option := by
          intro heq
          exact hnodup.1 (heq ▸ List.mem_map_of_mem hmem)
        rw [Given.has_set_of_ne hne]
        exact hitems item' hmem
      rw [hrest, ih p' _ hresolve' hnodup.2 hitems', List.any_cons, hhyphen, Bool.false_or,
        List.map_cons, Given.supplement_cons_of_read? hfresh htext hv]

theorem addEnvironment_eq_ok (options : List Opt)
    : ∀ g : Given,
        (∀ o ∈ options, g.has o = false →
          ∀ text, env o.envName = some text → ∃ v, o.read? text = some v)
          →
        addEnvironment env g options = .ok (g.supplement options fun o => env o.envName) := by
  induction options with
  | nil =>
    intro g _
    rw [Given.supplement_nil]
    rfl
  | cons o options ih =>
    intro g hread
    rw [List.forall_mem_cons] at hread
    rw [addEnvironment]
    split
    . next text htext =>
      split
      . next hhas => rw [ih g hread.2, Given.supplement_cons_of_settled (.inl hhas)]
      . next hhas =>
        rw [Bool.not_eq_true] at hhas
        rcases hread.1 hhas text htext with ⟨v, hv⟩
        have hrest : ∀ o' ∈ options, (g.set o v).has o' = false →
            ∀ text, env o'.envName = some text → ∃ v, o'.read? text = some v := by
          intro o' ho' hfresh
          exact hread.2 o' ho' (Given.has_of_has_set hfresh)
        rw [Given.store_of_read? hv, Except.ok_bind, ih _ hrest,
          Given.supplement_cons_of_read? hhas htext hv]
    . next hnone => rw [ih g hread.2, Given.supplement_cons_of_settled (.inr hnone)]

variable (htexts : IsAssignment texts) (h : Supplies items env texts)

include htexts h

theorem supplement_of_supplies
    : (Given.none.supplement (items.map Item.option) texts).supplement Opt.all
          (fun o => env o.envName)
        =
      Given.none.supplement Opt.all texts := by
  apply Given.ext_value?
  intro o
  simp only [Given.value?_supplement, Given.value?_none, Option.none_or, if_pos o.mem_all]
  by_cases ho : o ∈ items.map Item.option
  . rcases List.mem_map.mp ho with ⟨item, hitem, rfl⟩
    have htext := h.onLine item hitem
    rcases htexts.exists_read? htext with ⟨v, hv⟩
    rw [if_pos ho, htext, Option.bind_some, hv, Option.some_or]
  . rw [if_neg ho, Option.none_or, h.elsewhere o ho]

theorem read_eq_ofGiven
    : read (items.flatMap Item.arguments) env
        =
      if items.any Item.isHyphenated then
        .error (.unknown "-0")
      else
        Settings.ofGiven (Given.none.supplement Opt.all texts) := by
  have hitems : ∀ item ∈ items, Given.none.has item.option = false
      ∧ texts item.option = some item.value := by
    intro item hitem
    rw [Given.has_eq_isSome, Given.value?_none]
    exact ⟨rfl, h.onLine item hitem⟩
  have henv : ∀ o ∈ Opt.all, (Given.none.supplement (items.map Item.option) texts).has o = false →
      ∀ text, env o.envName = some text → ∃ v, o.read? text = some v := by
    intro o _ hfresh text htext
    by_cases ho : o ∈ items.map Item.option
    -- An option of the command line has been given something.
    . rcases List.mem_map.mp ho with ⟨item, hitem, rfl⟩
      have hread := htexts.accepted _ _ (h.onLine item hitem)
      rw [Given.has_eq_isSome, Given.value?_supplement, Given.value?_none, Option.none_or,
        if_pos ho, h.onLine item hitem, Option.bind_some, hread] at hfresh
      cases hfresh
    . rw [h.elsewhere o ho] at htext
      exact htexts.exists_read? htext
  rw [read, readArguments_items htexts items _ Given.none rfl h.once hitems]
  split
  . rfl
  . rw [Except.ok_bind, addEnvironment_eq_ok Opt.all _ henv, Except.ok_bind,
      supplement_of_supplies htexts h]

end Run

/--
Settings depend on what the options are given alone. One assignment of texts makes the same settings
however the texts are put on the command line and into the environment, in any order, except that a
value with a hyphen in front is refused in an argument of its own. The number of connections is the
only option that reads such values, and reads only zeros behind the hyphen.
-/
theorem read_of_supplies (htexts : IsAssignment texts)
    : ∃ s : Settings,
        (∀ s' : Settings, s'.Follows texts ↔ s' = s)
          ∧ (∀ items env, Supplies items env texts →
              read (items.flatMap Item.arguments) env
                =
              if items.any Item.isHyphenated then .error (.unknown "-0") else .ok s)
          ∧ ∀ o text cs, texts o = some text → text.toList = '-' :: cs →
              o = .maxConnections ∧ ∃ zeros, cs = '0' :: List.replicate zeros '0' := by
  rcases Settings.exists_follows htexts with ⟨s, hfollows, hs⟩
  refine ⟨s, fun s' => hfollows.iff_eq, ?_, ?_⟩
  . intro items env h
    rw [read_eq_ofGiven htexts h, hs]
  . intro o text cs htext hhyphen
    rcases htexts.exists_read? htext with ⟨v, hv⟩
    exact Opt.eq_maxConnections_of_hyphen hhyphen hv

section Sample

def sampleTexts : Opt → Option String
  | .chainId => some "0x539"
  | .contract => some "0x00000000000000000000000000000000000c0de1"
  | .nodeUrl => some "http://localhost:8545/?a=b"
  | .maxConnections => some "-0"
  | .logJson => some "true"
  | _ => none

def sampleItems (connections : Item) : List Item :=
  [connections, .flag, .joined .nodeUrl "http://localhost:8545/?a=b" rfl,
    .apart .chainId "0x539" rfl]

def sampleEnvironment : Environment
  | "CONTRACT_ADDRESS" => some "0x00000000000000000000000000000000000c0de1"
  | "CHAIN_ID" => some "zz"
  | "LOG_JSON" => some "no"
  | _ => none

def sampleSettings : Settings where
  chainId := 1337
  contract := ⟨List.replicate 17 0 ++ [0x0c, 0x0d, 0xe1], rfl⟩
  nodeUrl := ⟨"http", some ⟨"", "", "localhost", some 8545⟩, "/", some "a=b", none⟩
  nodeContract? := none
  nodeTimeoutMs := 10000
  listenAddress := .v4 0x7f000001 8545
  maxConnections := 0
  logJson := true

theorem follows_sampleTexts : sampleSettings.Follows sampleTexts := by
  intro o
  cases o <;> decide +kernel

theorem isAssignment_sampleTexts : IsAssignment sampleTexts := by
  constructor
  . intro o text h
    have hall : ∀ o ∈ Opt.all, (sampleTexts o).all fun text => (o.read? text).isSome := by
      decide +kernel
    have := hall o o.mem_all
    rwa [h] at this
  . intro o h
    cases o with
    | chainId => rfl
    | contract => rfl
    | nodeUrl => rfl
    | _ => cases h

theorem supplies_sample {connections : Item} (hoption : connections.option = .maxConnections)
    (hvalue : connections.value = "-0")
    : Supplies (sampleItems connections) sampleEnvironment sampleTexts := by
  have hoptions : (sampleItems connections).map Item.option
      = [.maxConnections, .logJson, .nodeUrl, .chainId] := by
    rw [sampleItems, List.map_cons, hoption]
    rfl
  refine ⟨?_, ?_, ?_⟩
  . rw [hoptions]
    decide
  . rw [sampleItems, List.forall_mem_cons, hoption, hvalue]
    decide
  . rw [hoptions]
    intro o ho
    cases o with
    | contract => rfl
    | nodeContract => rfl
    | nodeTimeout => rfl
    | listenAddress => rfl
    | _ => exact absurd (by decide) ho

theorem read_of_sampleTexts
    : IsAssignment sampleTexts
        ∧ sampleSettings.Follows sampleTexts
        ∧ read
              ["--rpc-max-connections=-0", "--log-json",
                "--upstream-url=http://localhost:8545/?a=b", "--chain-id", "0x539"]
              sampleEnvironment
            =
          .ok sampleSettings := by
  refine ⟨isAssignment_sampleTexts, follows_sampleTexts, ?_⟩
  rcases read_of_supplies isAssignment_sampleTexts with ⟨s, hunique, hread, -⟩
  have hs : sampleSettings = s := (hunique sampleSettings).mp follows_sampleTexts
  rw [hs]
  exact hread (sampleItems (.joined .maxConnections "-0" rfl)) sampleEnvironment
    (supplies_sample rfl rfl)

theorem read_hyphen_apart
    : IsAssignment sampleTexts
        ∧ Supplies (sampleItems (.joined .maxConnections "-0" rfl)) sampleEnvironment sampleTexts
        ∧ Supplies (sampleItems (.apart .maxConnections "-0" rfl)) sampleEnvironment sampleTexts
        ∧ read
              ["--rpc-max-connections=-0", "--log-json",
                "--upstream-url=http://localhost:8545/?a=b", "--chain-id", "0x539"]
              sampleEnvironment
            =
          .ok sampleSettings
        ∧ read
              ["--rpc-max-connections", "-0", "--log-json",
                "--upstream-url=http://localhost:8545/?a=b", "--chain-id", "0x539"]
              sampleEnvironment
            =
          .error (.unknown "-0") := by
  refine ⟨isAssignment_sampleTexts, supplies_sample rfl rfl, supplies_sample rfl rfl, ?_, ?_⟩
  . decide +kernel
  . decide +kernel

end Sample

end TokenGateway.CommandLine
