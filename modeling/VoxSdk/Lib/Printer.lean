import Mathlib.Data.List.Forall2

/-!
# Printing into a buffer

A formatter prints the pieces of a text into a buffer of a fixed size. A text that fits is printed whole; what is
left of another is the formatter's own affair, only that it leaves room for the end of the text. Texts printed one
behind the other come out whole or not at all just when nothing is left of those that do not fit, and then those
that fit are there in their order.
-/

namespace Text

variable {α : Type*}

/-- What is left in `size` places of pieces that are too long for them. -/
structure Printer (α : Type*) where
  cut : Nat → List (List α) → List α
  cut_lt : ∀ size pieces, 0 < size → (cut size pieces).length < size

/-- A text and its end fit. -/
def Fits (size : Nat) (pieces : List (List α)) : Prop := pieces.flatten.length < size

instance (size : Nat) (pieces : List (List α)) : Decidable (Fits size pieces) :=
  inferInstanceAs (Decidable (_ < _))

/-- The texts for which there is room, each behind those before it. -/
def fitting : Nat → List (List (List α)) → List (List (List α))
  | _, [] => []
  | room, pieces :: texts =>
      if Fits room pieces then pieces :: fitting (room - pieces.flatten.length) texts else fitting room texts

namespace Printer

variable (P : Printer α) {size room : Nat} {pieces : List (List α)} {texts : List (List (List α))} {buf : List α}

def print (size : Nat) (pieces : List (List α)) : List α :=
  if Fits size pieces then pieces.flatten else P.cut size pieces

variable {P}

theorem print_of_fits (h : Fits size pieces) : P.print size pieces = pieces.flatten := if_pos h

theorem print_of_not_fits (h : ¬Fits size pieces) : P.print size pieces = P.cut size pieces := if_neg h

theorem length_print_lt (hsize : 0 < size) : (P.print size pieces).length < size := by
  by_cases hfits : Fits size pieces
  · rw [print_of_fits hfits]
    exact hfits
  · rw [print_of_not_fits hfits]
    exact P.cut_lt size pieces hsize

/-- What is cut is not all of it. -/
theorem print_eq_flatten_iff (hsize : 0 < size) : P.print size pieces = pieces.flatten ↔ Fits size pieces := by
  constructor
  · intro heq
    unfold Fits
    rw [← heq]
    exact length_print_lt hsize
  · exact print_of_fits

variable (P)

/-- Printed behind what is there. -/
def append (size : Nat) (buf : List α) (pieces : List (List α)) : List α :=
  buf ++ P.print (size - buf.length) pieces

def printAll (size : Nat) (buf : List α) (texts : List (List (List α))) : List α :=
  texts.foldl (P.append size) buf

/-- What each text leaves in the room that is there for it. -/
def parts : Nat → List (List (List α)) → List (List α)
  | _, [] => []
  | room, pieces :: texts => P.print room pieces :: parts (room - (P.print room pieces).length) texts

/-- Each text is left whole or not at all. -/
def Whole (room : Nat) (texts : List (List (List α))) : Prop :=
  List.Forall₂ (fun part pieces => part = pieces.flatten ∨ part = []) (P.parts room texts) texts

/-- Nothing is left of a text that does not fit behind the ones that do. -/
def NeverCuts : Nat → List (List (List α)) → Prop
  | _, [] => True
  | room, pieces :: texts =>
      if Fits room pieces then NeverCuts (room - pieces.flatten.length) texts
      else P.cut room pieces = [] ∧ NeverCuts room texts

variable {P}

theorem length_append_lt (hbuf : buf.length < size) : (P.append size buf pieces).length < size := by
  have hprint : (P.print (size - buf.length) pieces).length < size - buf.length :=
    length_print_lt (Nat.sub_pos_of_lt hbuf)
  rw [append, List.length_append]
  omega

theorem printAll_eq (hbuf : buf.length < size) :
    P.printAll size buf texts = buf ++ (P.parts (size - buf.length) texts).flatten := by
  induction texts generalizing buf with
  | nil => exact (List.append_nil buf).symm
  | cons pieces texts ih =>
      have hroom : size - (P.append size buf pieces).length =
          size - buf.length - (P.print (size - buf.length) pieces).length := by
        rw [append, List.length_append, Nat.sub_add_eq]
      calc
        P.printAll size buf (pieces :: texts)
          = P.printAll size (P.append size buf pieces) texts := rfl
        _ = P.append size buf pieces ++ (P.parts (size - (P.append size buf pieces).length) texts).flatten :=
            ih (length_append_lt hbuf)
        _ = buf ++ (P.parts (size - buf.length) (pieces :: texts)).flatten := by
            rw [hroom, append, List.append_assoc, parts, List.flatten_cons]

theorem length_printAll_lt (hbuf : buf.length < size) : (P.printAll size buf texts).length < size := by
  induction texts generalizing buf with
  | nil => exact hbuf
  | cons pieces texts ih => exact ih (length_append_lt hbuf)

theorem whole_cons : P.Whole room (pieces :: texts) ↔
    (P.print room pieces = pieces.flatten ∨ P.print room pieces = []) ∧
      P.Whole (room - (P.print room pieces).length) texts := List.forall₂_cons

theorem neverCuts_cons_of_fits (h : Fits room pieces) :
    P.NeverCuts room (pieces :: texts) ↔ P.NeverCuts (room - pieces.flatten.length) texts := by
  rw [NeverCuts, if_pos h]

theorem neverCuts_cons_of_not_fits (h : ¬Fits room pieces) :
    P.NeverCuts room (pieces :: texts) ↔ P.cut room pieces = [] ∧ P.NeverCuts room texts := by
  rw [NeverCuts, if_neg h]

theorem whole_iff (hroom : 0 < room) : P.Whole room texts ↔ P.NeverCuts room texts := by
  induction texts generalizing room with
  | nil => exact iff_of_true .nil trivial
  | cons pieces texts ih =>
      rw [whole_cons]
      by_cases hfits : Fits room pieces
      · rw [neverCuts_cons_of_fits hfits, print_of_fits hfits, ih (Nat.sub_pos_of_lt hfits)]
        exact and_iff_right (.inl rfl)
      · have hpart : P.print room pieces ≠ pieces.flatten := fun h => hfits ((print_eq_flatten_iff hroom).mp h)
        rw [neverCuts_cons_of_not_fits hfits, or_iff_right hpart, print_of_not_fits hfits]
        refine and_congr_right fun hcut => ?_
        rw [hcut, List.length_nil, Nat.sub_zero, ih hroom]

/-- Then the buffer holds the texts that fit. -/
theorem flatten_parts (h : P.NeverCuts room texts) :
    (P.parts room texts).flatten = ((fitting room texts).map List.flatten).flatten := by
  induction texts generalizing room with
  | nil => rfl
  | cons pieces texts ih =>
      unfold parts fitting
      by_cases hfits : Fits room pieces
      · rw [neverCuts_cons_of_fits hfits] at h
        rw [if_pos hfits, print_of_fits hfits, List.map_cons, List.flatten_cons, List.flatten_cons, ih h]
      · rw [neverCuts_cons_of_not_fits hfits] at h
        rw [if_neg hfits, print_of_not_fits hfits, h.1, List.flatten_cons, List.nil_append, List.length_nil,
          Nat.sub_zero, ih h.2]

theorem parts_of_fits (h : Fits room texts.flatten) : P.parts room texts = texts.map List.flatten := by
  induction texts generalizing room with
  | nil => rfl
  | cons pieces texts ih =>
      unfold Fits at h
      rw [List.flatten_cons, List.flatten_append, List.length_append] at h
      have hfits : Fits room pieces := Nat.lt_of_add_right_lt h
      unfold parts
      rw [print_of_fits hfits, List.map_cons, ih (Nat.lt_sub_iff_add_lt'.mpr h)]

end Printer

/-! ### Whole pieces

A formatter that writes piece after piece, and stops before the first for which there is no room. -/

/-- The pieces for which there is room, up to the first for which there is none. -/
def leadingPieces : Nat → List (List α) → List α
  | _, [] => []
  | room, piece :: pieces =>
      if piece.length < room then piece ++ leadingPieces (room - piece.length) pieces else []

theorem length_leadingPieces_lt {room : Nat} (hroom : 0 < room) (pieces : List (List α)) :
    (leadingPieces room pieces).length < room := by
  induction pieces generalizing room with
  | nil => exact hroom
  | cons piece pieces ih =>
      unfold leadingPieces
      split
      · rename_i hfits
        have hrest := ih (Nat.sub_pos_of_lt hfits)
        rw [List.length_append]
        omega
      · exact hroom

def wholePieces (α : Type*) : Printer α where
  cut := leadingPieces
  cut_lt _ pieces hsize := length_leadingPieces_lt hsize pieces

end Text
