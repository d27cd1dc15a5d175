import Mathlib.Algebra.GroupWithZero.Nat
import Mathlib.Algebra.Order.Group.Nat
import Mathlib.Data.List.Basic

/-!
# Words as bytes, files of records

A word is written as so many bytes, the low one first or the high one first; a reader takes so many bytes off
a stream, or finds too few. A stream of records is read by reading one record after the other until nothing is
left. What is written to a file goes where the file stands, and over what was there.
-/

namespace Bytes

variable {α : Type*} {n v : Nat} {bs rest : List UInt8}

/-- `n` bytes of `v`, the low one first. What does not fit is cut off. -/
def le : Nat → Nat → List UInt8
  | 0, _ => []
  | n + 1, v => UInt8.ofNat v :: le n (v / 256)

/-- The same, the high one first. -/
def be (n v : Nat) : List UInt8 := (le n v).reverse

/-- What the bytes say, the low one first. -/
def ofLe : List UInt8 → Nat
  | [] => 0
  | b :: bs => b.toNat + 256 * ofLe bs

def ofBe (bs : List UInt8) : Nat := ofLe bs.reverse

@[simp]
theorem length_le (n v : Nat) : (le n v).length = n := by
  induction n generalizing v with
  | zero => rfl
  | succ n ih => rw [le, List.length_cons, ih]

@[simp]
theorem length_be (n v : Nat) : (be n v).length = n := by
  rw [be, List.length_reverse, length_le]

@[simp]
theorem ofLe_le (n v : Nat) : ofLe (le n v) = v % 256 ^ n := by
  induction n generalizing v with
  | zero => simp [le, ofLe, Nat.mod_one]
  | succ n ih =>
      calc
        ofLe (le (n + 1) v) = (UInt8.ofNat v).toNat + 256 * ofLe (le n (v / 256)) := rfl
        _ = v % 256 + 256 * (v / 256 % 256 ^ n) := by rw [ih, UInt8.toNat_ofNat']
        _ = v % (256 * 256 ^ n) := (Nat.mod_mul).symm
        _ = v % 256 ^ (n + 1) := by rw [Nat.pow_succ, Nat.mul_comm]

@[simp]
theorem ofBe_be (n v : Nat) : ofBe (be n v) = v % 256 ^ n := by
  rw [ofBe, be, List.reverse_reverse, ofLe_le]

/-! ### Reading a stream -/

/-- The next `n` bytes, and what follows them. -/
def cut (n : Nat) (bs : List UInt8) : Option (List UInt8 × List UInt8) :=
  if n ≤ bs.length then some (bs.take n, bs.drop n) else none

theorem cut_append (h : bs.length = n) (rest : List UInt8) : cut n (bs ++ rest) = some (bs, rest) := by
  rw [cut, if_pos (by rw [List.length_append]; omega), List.take_left' h, List.drop_left' h]

theorem cut_eq_some {head tail : List UInt8} (h : cut n bs = some (head, tail)) :
    bs = head ++ tail ∧ head.length = n := by
  unfold cut at h
  split at h
  · rename_i hle
    obtain ⟨rfl, rfl⟩ := Prod.mk.inj (Option.some.inj h)
    exact ⟨(List.take_append_drop n bs).symm, List.length_take_of_le hle⟩
  · cases h

theorem length_of_cut {p : List UInt8 × List UInt8} (h : cut n bs = some p) :
    p.1.length + p.2.length = bs.length ∧ p.1.length = n := by
  obtain ⟨heq, hlen⟩ := cut_eq_some h
  rw [heq, List.length_append]
  exact ⟨rfl, hlen⟩

/-- The next word of `n` bytes, and what follows it. -/
def takeLe (n : Nat) (bs : List UInt8) : Option (Nat × List UInt8) :=
  (cut n bs).map fun p => (ofLe p.1, p.2)

def takeBe (n : Nat) (bs : List UInt8) : Option (Nat × List UInt8) :=
  (cut n bs).map fun p => (ofBe p.1, p.2)

@[simp]
theorem takeLe_append (n v : Nat) (rest : List UInt8) :
    takeLe n (le n v ++ rest) = some (v % 256 ^ n, rest) := by
  rw [takeLe, cut_append (length_le n v), Option.map_some, ofLe_le]

@[simp]
theorem takeBe_append (n v : Nat) (rest : List UInt8) :
    takeBe n (be n v ++ rest) = some (v % 256 ^ n, rest) := by
  rw [takeBe, cut_append (length_be n v), Option.map_some, ofBe_be]

theorem length_of_takeBe {v : Nat} (h : takeBe n bs = some (v, rest)) : n + rest.length = bs.length := by
  obtain ⟨q, hq, heq⟩ := Option.map_eq_some_iff.mp h
  obtain ⟨-, rfl⟩ := Prod.mk.inj heq
  obtain ⟨hsum, hlen⟩ := length_of_cut hq
  omega

theorem length_of_takeLe {v : Nat} (h : takeLe n bs = some (v, rest)) : n + rest.length = bs.length := by
  obtain ⟨q, hq, heq⟩ := Option.map_eq_some_iff.mp h
  obtain ⟨-, rfl⟩ := Prod.mk.inj heq
  obtain ⟨hsum, hlen⟩ := length_of_cut hq
  omega

/-- Read records until nothing is left. A reader that takes nothing has gone wrong. -/
def readAll (read : List UInt8 → Option (α × List UInt8)) (bs : List UInt8) : Option (List α) :=
  if bs = [] then some []
  else
    (read bs).bind fun p =>
      if p.2.length < bs.length then (readAll read p.2).map (p.1 :: ·) else none
termination_by bs.length

section Records

variable {read : List UInt8 → Option (α × List UInt8)} {x : α}

@[simp]
theorem readAll_nil : readAll read [] = some [] := by
  rw [readAll, if_pos rfl]

theorem readAll_cons (hread : read bs = some (x, rest)) (hlt : rest.length < bs.length) :
    readAll read bs = (readAll read rest).map (x :: ·) := by
  have hne : bs ≠ [] := by
    rintro rfl
    cases hlt
  rw [readAll, if_neg hne, hread, Option.bind_some, if_pos hlt]

/-- Of what is read the first record comes off the front. -/
theorem readAll_eq_cons {xs : List α} (h : readAll read bs = some (x :: xs)) :
    ∃ rest, read bs = some (x, rest) ∧ rest.length < bs.length ∧ readAll read rest = some xs := by
  rw [readAll] at h
  split at h
  · cases h
  · obtain ⟨⟨y, rest⟩, hread, hrest⟩ := Option.bind_eq_some_iff.mp h
    split at hrest
    · rename_i hlt
      obtain ⟨ys, hys, heq⟩ := Option.map_eq_some_iff.mp hrest
      obtain ⟨rfl, rfl⟩ := List.cons_eq_cons.mp heq
      exact ⟨rest, hread, hlt, hys⟩
    · cases hrest

/-- What is read takes room in the stream: if a record `x` comes off at least `size x` bytes, the stream
has the sum of them. -/
theorem sum_le_of_readAll {size : α → Nat} {xs : List α}
    (hsize : ∀ bs x rest, read bs = some (x, rest) → size x + rest.length ≤ bs.length)
    (h : readAll read bs = some xs) : (xs.map size).sum ≤ bs.length := by
  induction xs generalizing bs with
  | nil => exact Nat.zero_le _
  | cons x xs ih =>
      obtain ⟨rest, hread, -, hrest⟩ := readAll_eq_cons h
      have htail := ih hrest
      have hhead := hsize _ _ _ hread
      rw [List.map_cons, List.sum_cons]
      omega

end Records

/-! ### Files -/

/-- A file and the place in it where the next byte goes. -/
structure File where
  bytes : List UInt8
  pos : Nat
  deriving DecidableEq

namespace File

/-- `fopen(path, "wb")`. -/
def opened : File := { bytes := [], pos := 0 }

/-- `fwrite`. -/
def fwrite (bs : List UInt8) (f : File) : File :=
  { bytes := f.bytes.take f.pos ++ bs ++ f.bytes.drop (f.pos + bs.length)
    pos := f.pos + bs.length }

def rewind (f : File) : File := { f with pos := 0 }

/-- The file stands at its end. -/
def AtEnd (f : File) : Prop := f.pos = f.bytes.length

theorem atEnd_opened : opened.AtEnd := rfl

variable {f : File}

theorem AtEnd.bytes_fwrite (h : f.AtEnd) (bs : List UInt8) : (f.fwrite bs).bytes = f.bytes ++ bs := by
  unfold AtEnd at h
  simp only [fwrite]
  rw [h, List.take_length, List.drop_eq_nil_of_le (by omega), List.append_nil]

theorem AtEnd.fwrite (h : f.AtEnd) (bs : List UInt8) : (f.fwrite bs).AtEnd := by
  unfold AtEnd
  rw [h.bytes_fwrite, List.length_append, ← h]
  rfl

/-- From the start, what is written replaces as much of what was there. -/
theorem bytes_rewind_fwrite (bs : List UInt8) : (f.rewind.fwrite bs).bytes = bs ++ f.bytes.drop bs.length := by
  simp [rewind, File.fwrite]

end File

end Bytes
