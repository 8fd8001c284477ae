import ZkArche.Lib.Bytes

/-!
# Hashing in pieces

A *streaming interface* of a hash function takes the input in pieces.  What it promises is that the
cuts do not matter: the result is the hash of the pieces one after the other.
-/

/-- A streaming interface of a hash function. -/
structure StreamHash {H : Type} (hash : List UInt8 → H) where
  State : Type
  init : State
  update : State → List UInt8 → State
  final : State → H
  /-- The result is the hash of the pieces one after the other. -/
  final_updates : ∀ pieces : List (List UInt8),
    final (pieces.foldl update init) = hash pieces.flatten

namespace StreamHash

variable {H : Type} {hash : List UInt8 → H}

/-- The interface that keeps everything and hashes at the end. -/
def buffered (hash : List UInt8 → H) : StreamHash hash where
  State := List UInt8
  init := []
  update := (· ++ ·)
  final := hash
  final_updates := by
    have h : ∀ (pieces : List (List UInt8)) (state : List UInt8),
        pieces.foldl (· ++ ·) state = state ++ pieces.flatten := by
      intro pieces
      induction pieces with
      | nil => simp
      | cons piece pieces ih => simp [ih]
    intro pieces
    rw [h, List.nil_append]

/-- Every hash function has a streaming interface. -/
instance : Nonempty (StreamHash hash) := ⟨buffered hash⟩

end StreamHash
