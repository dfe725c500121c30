import TokenGateway.Bytes

/-!
The hash Keccak-256: the permutation of 25 lanes of 64 bits, and the sponge that takes in blocks of
136 bytes, closed by a single one bit at each end of the padding.
-/

namespace TokenGateway.Keccak

/--
The lanes of a state; lane `x + 5 * y` stands in column `x` of row `y`.
-/
abbrev State := List UInt64

def rate : Nat := 136

def rotate (lane : UInt64) (n : UInt64) : UInt64 :=
  if n = 0 then lane else (lane <<< n) ||| (lane >>> (64 - n))

def lane (s : State) (i : Nat) : UInt64 :=
  s.getD i 0

def theta (s : State) : State :=
  let parity := (List.range 5).map fun x =>
    lane s x ^^^ lane s (x + 5) ^^^ lane s (x + 10) ^^^ lane s (x + 15) ^^^ lane s (x + 20)
  let mixed := (List.range 5).map fun x =>
    lane parity ((x + 4) % 5) ^^^ rotate (lane parity ((x + 1) % 5)) 1
  (List.range 25).map fun i => lane s i ^^^ lane mixed (i % 5)

/--
For each place of the state after turning and moving: the lane that comes there, and its turn.
-/
def moves : List (Nat × UInt64) :=
  [(0, 0), (6, 44), (12, 43), (18, 21), (24, 14),
   (3, 28), (9, 20), (10, 3), (16, 45), (22, 61),
   (1, 1), (7, 6), (13, 25), (19, 8), (20, 18),
   (4, 27), (5, 36), (11, 10), (17, 15), (23, 56),
   (2, 62), (8, 55), (14, 39), (15, 41), (21, 2)]

def rhoPi (s : State) : State :=
  moves.map fun move => rotate (lane s move.1) move.2

def chi (s : State) : State :=
  (List.range 25).map fun i =>
    let row := i / 5 * 5
    lane s i ^^^ (~~~ lane s (row + (i + 1) % 5) &&& lane s (row + (i + 2) % 5))

def roundConstants : List UInt64 :=
  [0x0000000000000001, 0x0000000000008082, 0x800000000000808a, 0x8000000080008000,
   0x000000000000808b, 0x0000000080000001, 0x8000000080008081, 0x8000000000008009,
   0x000000000000008a, 0x0000000000000088, 0x0000000080008009, 0x000000008000000a,
   0x000000008000808b, 0x800000000000008b, 0x8000000000008089, 0x8000000000008003,
   0x8000000000008002, 0x8000000000000080, 0x000000000000800a, 0x800000008000000a,
   0x8000000080008081, 0x8000000000008080, 0x0000000080000001, 0x8000000080008008]

def round (s : State) (constant : UInt64) : State :=
  (chi (rhoPi (theta s))).modifyHead (· ^^^ constant)

def permute (s : State) : State :=
  roundConstants.foldl round s

def laneOfBytes : Bytes → UInt64
  | [] => 0
  | b :: bs => b.toUInt64 ||| (laneOfBytes bs <<< 8)

def bytesOfLane (l : UInt64) : Bytes :=
  (List.range 8).map fun i => (l >>> (8 * i.toUInt64)).toUInt8

def absorb (s : State) (block : Bytes) : State :=
  let lanes := (List.range (rate / 8)).map fun i => laneOfBytes (Bytes.slice block (8 * i) 8)
  permute ((List.range 25).map fun i => lane s i ^^^ lane lanes i)

/--
Pad the bytes after the last whole block to a block: the byte 1, zeros, and the top bit of the last
byte.
-/
def padded (rest : Bytes) : Bytes :=
  match rate - rest.length with
  | 0 => rest
  | 1 => rest ++ [0x81]
  | gap + 2 => rest ++ 0x01 :: (Bytes.zeros gap ++ [0x80])

def absorbAll : (blocks : Nat) → State → Bytes → State
  | 0, s, rest => absorb s (padded rest)
  | blocks + 1, s, message => absorbAll blocks (absorb s (message.take rate)) (message.drop rate)

def hash (message : Bytes) : Bytes :=
  let final := absorbAll (message.length / rate) (List.replicate 25 0) message
  (final.take 4).flatMap bytesOfLane

@[simp]
theorem length_round (s : State) (constant : UInt64) : (round s constant).length = 25 := by
  simp [round, chi]

@[simp]
theorem length_permute (s : State) : (permute s).length = 25 := by
  simp [permute, roundConstants]

@[simp]
theorem length_absorbAll (blocks : Nat) (s : State) (message : Bytes) :
    (absorbAll blocks s message).length = 25 := by
  induction blocks generalizing s message with
  | zero => simp [absorbAll, absorb]
  | succ blocks ih => simp [absorbAll, ih]

@[simp]
theorem length_bytesOfLane (l : UInt64) : (bytesOfLane l).length = 8 := by
  simp [bytesOfLane]

theorem length_hash (message : Bytes) : (hash message).length = 32 := by
  have h : ∀ lanes : List UInt64, (lanes.flatMap bytesOfLane).length = 8 * lanes.length := by
    intro lanes
    induction lanes with
    | nil => rfl
    | cons l ls ih => simp [ih, Nat.mul_add, Nat.add_comm]
  simp [hash, h]

end TokenGateway.Keccak
