import Mathlib.Algebra.GroupWithZero.Nat
import Mathlib.Data.List.TakeDrop
import VoxSdk.Lib.Text

/-!
# Texts in a block of memory

A block is so many cells. A text stands in it from some place on, with a mark behind its last letter, and is
read from that place up to the mark. It can be read as long as nothing is written over it.
-/

namespace Block

variable {α : Type*} {c : α} {block data t : List α} {off k : Nat}

/-- `data` written into the block from `off` on. -/
def put (off : Nat) (data block : List α) : List α :=
  block.take off ++ data ++ block.drop (off + data.length)

theorem length_put (h : off + data.length ≤ block.length) : (put off data block).length = block.length := by
  rw [put, List.length_append, List.length_append, List.length_take, List.length_drop]
  omega

theorem drop_put (h : off ≤ block.length) :
    (put off data block).drop off = data ++ block.drop (off + data.length) := by
  rw [put, List.append_assoc]
  exact List.drop_left' (List.length_take_of_le h)

theorem drop_put_of_le (hoff : off ≤ k) (hk : k ≤ block.length) :
    (put k data block).drop off = (block.drop off).take (k - off) ++ (data ++ block.drop (k + data.length)) := by
  rw [put, List.append_assoc, List.drop_append_of_le_length (by rw [List.length_take_of_le hk]; exact hoff),
    List.drop_take]

variable [DecidableEq α]

/-- The text that begins at `off`; nothing where no mark follows. -/
def textAt (c : α) (off : Nat) (block : List α) : Option (List α) :=
  if c ∈ block.drop off then some (Text.upTo c (block.drop off)) else none

theorem textAt_of_drop {rest : List α} (h : block.drop off = t ++ c :: rest) :
    textAt c off block = some (Text.upTo c t) := by
  have hmem : c ∈ block.drop off := by
    rw [h]
    exact List.mem_append_right t List.mem_cons_self
  rw [textAt, if_pos hmem, h]
  unfold Text.upTo
  rw [Text.takeWhile_append_stop (by simp)]

theorem textAt_eq_some_iff :
    textAt c off block = some t ↔ c ∉ t ∧ ∃ rest, block.drop off = t ++ c :: rest := by
  constructor
  · intro h
    unfold textAt at h
    split at h
    · rename_i hmem
      obtain ⟨u, rest, hdrop, hu⟩ := Text.exists_cut hmem
      rw [hdrop, Text.upTo_append hu] at h
      obtain rfl := Option.some.inj h
      exact ⟨hu, rest, hdrop⟩
    · cases h
  · rintro ⟨hc, rest, hdrop⟩
    rw [textAt_of_drop hdrop, Text.upTo_of_notMem hc]

theorem textAt_of_length_le (h : block.length ≤ off) : textAt c off block = none := by
  rw [textAt, List.drop_eq_nil_of_le h, if_neg List.not_mem_nil]

/-- What is written with its mark is read. -/
theorem textAt_put (h : off ≤ block.length) (t : List α) :
    textAt c off (put off (t ++ [c]) block) = some (Text.upTo c t) := by
  apply textAt_of_drop
  rw [drop_put h, List.append_assoc, List.singleton_append]

/-- Or without one, where the block has a mark behind it. -/
theorem textAt_put_of_mark (h : off ≤ block.length) (hmark : block[off + t.length]? = some c) :
    textAt c off (put off t block) = some (Text.upTo c t) := by
  obtain ⟨hlt, hget⟩ := List.getElem?_eq_some_iff.mp hmark
  apply textAt_of_drop
  rw [drop_put h, List.drop_eq_getElem_cons hlt, hget]

/-- A text is not touched by what is written behind its mark. -/
theorem textAt_put_of_lt (h : textAt c off block = some t) (hk : off + t.length < k)
    (hlen : k ≤ block.length) : textAt c off (put k data block) = some t := by
  obtain ⟨hc, rest, hdrop⟩ := textAt_eq_some_iff.mp h
  refine textAt_eq_some_iff.mpr ⟨hc, rest.take (k - off - t.length - 1) ++ (data ++ block.drop (k + data.length)), ?_⟩
  have htake : (t ++ c :: rest).take (k - off) = t ++ c :: rest.take (k - off - t.length - 1) := by
    rw [List.take_append, List.take_of_length_le (by omega)]
    congr 1
    obtain ⟨j, hj⟩ : ∃ j, k - off - t.length = j + 1 := ⟨k - off - t.length - 1, by omega⟩
    rw [hj, List.take_succ_cons, Nat.add_sub_cancel]
  rw [drop_put_of_le (by omega) hlen, hdrop, htake, List.append_assoc, List.cons_append]

/-- Marks behind a text do not belong to it. -/
theorem upTo_takeD (k : Nat) (t : List α) : Text.upTo c (t.takeD k c) = Text.upTo c (t.take k) := by
  induction k generalizing t with
  | zero => rfl
  | succ k ih =>
      cases t with
      | nil => simp [List.takeD, Text.upTo]
      | cons a t =>
          unfold Text.upTo at ih ⊢
          rw [List.takeD_succ, List.head?_cons, Option.getD_some, List.tail_cons, List.take_succ_cons,
            List.takeWhile_cons, List.takeWhile_cons, ih t]

/-! ### Texts one behind the other

Each text is given what the texts before it have left of the block, for as much of it as that holds and a mark. A
text for which not even the mark is left is not written. -/

/-- The cells of a text of `len` letters and of its mark. -/
structure Region where
  off : Nat
  len : Nat
  deriving DecidableEq

/-- The first cell behind a region. -/
def Region.stop (r : Region) : Nat := r.off + r.len + 1

/-- The region is in the block, and in it are the first letters of `src` and a mark. -/
structure Region.Holds (c : α) (block src : List α) (r : Region) : Prop where
  inside : r.stop ≤ block.length
  len_le : r.len ≤ src.length
  text : (block.drop r.off).take (r.len + 1) = src.take r.len ++ [c]

def pack (c : α) : Nat → List (Option (List α)) → List α → List (Option Region) × List α
  | _, [], block => ([], block)
  | off, none :: texts, block =>
      let packed := pack c off texts block
      (none :: packed.1, packed.2)
  | off, some t :: texts, block =>
      if off < block.length then
        let r : Region := { off, len := min t.length (block.length - off - 1) }
        let packed := pack c r.stop texts (put off (t.take r.len ++ [c]) block)
        (some r :: packed.1, packed.2)
      else
        let packed := pack c off texts block
        (none :: packed.1, packed.2)

omit [DecidableEq α] in
theorem put_put {u : List α} (h : off ≤ block.length) :
    put (off + t.length) u (put off t block) = put off (t ++ u) block := by
  have hhead : (block.take off ++ t).length = off + t.length := by
    rw [List.length_append, List.length_take_of_le h]
  have htail : (block.take off ++ t ++ block.drop (off + t.length)).drop (off + t.length + u.length) =
      block.drop (off + t.length + u.length) := by
    rw [List.drop_append, hhead, List.drop_eq_nil_of_le (by rw [hhead]; omega), List.nil_append, List.drop_drop]
    congr 1
    omega
  unfold put
  rw [htail, List.take_left' hhead, List.length_append, ← Nat.add_assoc, List.append_assoc _ t u]

namespace Region

variable {r : Region} {src : List α}

omit [DecidableEq α] in
theorem holds_put (h : off < block.length) (src : List α) :
    ({ off, len := min src.length (block.length - off - 1) } : Region).Holds c
      (put off (src.take (min src.length (block.length - off - 1)) ++ [c]) block) src := by
  have hlen : (src.take (min src.length (block.length - off - 1)) ++ [c]).length =
      min src.length (block.length - off - 1) + 1 := by
    rw [List.length_append, List.length_take, List.length_singleton]
    omega
  refine ⟨?_, Nat.min_le_left _ _, ?_⟩
  · rw [stop, length_put (by rw [hlen]; omega)]
    dsimp only
    omega
  · rw [drop_put h.le]
    exact List.take_left' hlen

omit [DecidableEq α] in
/-- A region is not touched by what is written behind it. -/
theorem Holds.put (h : r.Holds c block src) (hk : r.stop ≤ k) (hlen : k + data.length ≤ block.length) :
    r.Holds c (put k data block) src := by
  have hstop : r.stop = r.off + r.len + 1 := rfl
  refine ⟨(length_put hlen).symm ▸ h.inside, h.len_le, ?_⟩
  rw [drop_put_of_le (by omega) (by omega), List.take_append_of_le_length, List.take_take, min_eq_left (by omega),
    h.text]
  rw [List.length_take, List.length_drop]
  omega

end Region

/-- The cells that regions take up. -/
def cells (rs : List Region) : Nat := (rs.map fun r => r.len + 1).sum

/-- The cells that texts would take up with their marks. -/
def need (ts : List (List α)) : Nat := (ts.map fun t => t.length + 1).sum

@[simp]
theorem cells_cons (r : Region) (rs : List Region) : cells (r :: rs) = r.len + 1 + cells rs := rfl

omit [DecidableEq α] in
@[simp]
theorem need_cons (t : List α) (ts : List (List α)) : need (t :: ts) = t.length + 1 + need ts := rfl

/-- Where each text of a list stands, if it does, in what the block has from `off` on: the beginning of a text
in its region, apart from the others, and all of it if all of them fit. A text is left out exactly if the regions
before it end at the end of the block. -/
structure LaysOut (c : α) (block : List α) (off : Nat) (texts : List (Option (List α) × Option Region)) : Prop where
  above : ∀ p ∈ texts, ∀ r ∈ p.2, off ≤ r.off
  holds : ∀ p ∈ texts, ∀ r ∈ p.2, ∃ t ∈ p.1, r.Holds c block t
  apart : (texts.filterMap Prod.snd).Pairwise fun r r' => r.stop ≤ r'.off
  whole : off + need (texts.filterMap Prod.fst) ≤ block.length →
    ∀ p ∈ texts, ∀ t ∈ p.1, ∃ r ∈ p.2, r.len = t.length
  leftOut : ∀ before p after, texts = before ++ p :: after → p.1.isSome →
    (p.2 = none ↔ off + cells (before.filterMap Prod.snd) = block.length)

namespace LaysOut

variable {texts : List (Option (List α) × Option Region)}

omit [DecidableEq α]

theorem nil : LaysOut c block off [] := by
  refine ⟨by simp, by simp, .nil, by simp, ?_⟩
  intro before p after h
  simp at h

theorem absent (h : LaysOut c block off texts) : LaysOut c block off ((none, none) :: texts) := by
  refine ⟨by simpa using h.above, by simpa using h.holds, h.apart, by simpa using h.whole, ?_⟩
  intro before p after heq hp
  cases before with
  | nil =>
      obtain ⟨rfl, -⟩ := List.cons.inj heq
      cases hp
  | cons p' before =>
      obtain ⟨rfl, hrest⟩ := List.cons.inj heq
      exact h.leftOut before p after hrest hp

theorem full (hoff : off = block.length) (h : LaysOut c block off texts) (t : List α) :
    LaysOut c block off ((some t, none) :: texts) := by
  refine ⟨by simpa using h.above, by simpa using h.holds, h.apart, ?_, ?_⟩
  · intro hfits
    have hneed : off + need (t :: texts.filterMap Prod.fst) ≤ block.length := hfits
    rw [need_cons] at hneed
    omega
  · intro before p after heq hp
    cases before with
    | nil =>
        obtain ⟨rfl, -⟩ := List.cons.inj heq
        exact iff_of_true rfl hoff
    | cons p' before =>
        obtain ⟨rfl, hrest⟩ := List.cons.inj heq
        exact h.leftOut before p after hrest hp

theorem here {r : Region} (hr : r.Holds c block t) (hlen : r.len = min t.length (block.length - r.off - 1))
    (h : LaysOut c block r.stop texts) : LaysOut c block r.off ((some t, some r) :: texts) := by
  have hstop : r.stop = r.off + r.len + 1 := rfl
  have hinside := hr.inside
  refine ⟨?_, ?_, ?_, ?_, ?_⟩
  · rintro p hp r' hr'
    rcases List.mem_cons.mp hp with rfl | hp
    · exact (Option.some.inj hr' ▸ le_rfl)
    · have habove := h.above p hp r' hr'
      omega
  · rintro p hp r' hr'
    rcases List.mem_cons.mp hp with rfl | hp
    · exact ⟨t, rfl, Option.some.inj hr' ▸ hr⟩
    · exact h.holds p hp r' hr'
  · refine List.pairwise_cons.mpr ⟨fun r' hr' => ?_, h.apart⟩
    obtain ⟨p, hp, hpr⟩ := List.mem_filterMap.mp hr'
    exact h.above p hp r' hpr
  · intro hfits p hp t' ht'
    have hneed : r.off + need (t :: texts.filterMap Prod.fst) ≤ block.length := hfits
    rw [need_cons] at hneed
    have hwhole : r.len = t.length := by omega
    rcases List.mem_cons.mp hp with rfl | hp
    · exact ⟨r, rfl, Option.some.inj ht' ▸ hwhole⟩
    · exact h.whole (by omega) p hp t' ht'
  · intro before p after heq hp
    cases before with
    | nil =>
        obtain ⟨rfl, -⟩ := List.cons.inj heq
        refine iff_of_false (by simp) fun hcells => ?_
        have hoff : r.off + 0 = block.length := hcells
        omega
    | cons p' before =>
        obtain ⟨rfl, hrest⟩ := List.cons.inj heq
        have hcells : cells (((some t, some r) :: before).filterMap Prod.snd) =
            r.len + 1 + cells (before.filterMap Prod.snd) := rfl
        rw [h.leftOut before p after hrest hp, hcells]
        omega

end LaysOut

omit [DecidableEq α] in
/-- The packed texts, with what stood before them as it was. -/
theorem pack_spec (texts : List (Option (List α))) (h : off ≤ block.length) :
    (pack c off texts block).2.length = block.length ∧
      LaysOut c (pack c off texts block).2 off (texts.zip (pack c off texts block).1) ∧
      ∀ (r : Region) (src : List α), r.stop ≤ off → r.Holds c block src →
        r.Holds c (pack c off texts block).2 src := by
  induction texts generalizing off block with
  | nil => exact ⟨rfl, .nil, fun _ _ _ hr => hr⟩
  | cons text texts ih =>
      cases text with
      | none =>
          obtain ⟨hlen, hlaid, hkept⟩ := ih h
          exact ⟨hlen, hlaid.absent, hkept⟩
      | some t =>
          unfold pack
          split
          · rename_i hoff
            generalize hr : ({ off, len := min t.length (block.length - off - 1) } : Region) = r
            have hroff : r.off = off := hr ▸ rfl
            have hrlen : r.len = min t.length (block.length - off - 1) := hr ▸ rfl
            have hstop : r.stop = off + r.len + 1 := by rw [Region.stop, hroff]
            have hput : (put off (t.take r.len ++ [c]) block).length = block.length := by
              apply length_put
              rw [List.length_append, List.length_take, List.length_singleton]
              omega
            have hholds : r.Holds c (put off (t.take r.len ++ [c]) block) t := by
              rw [hrlen, ← hr]
              exact Region.holds_put hoff t
            obtain ⟨hlen, hlaid, hkept⟩ := ih hholds.inside
            refine ⟨hlen.trans hput, ?_, ?_⟩
            · have hthere := LaysOut.here (hkept r t le_rfl hholds) (by rw [hlen, hput, hroff, hrlen]) hlaid
              rw [hroff] at hthere
              exact hthere
            · intro r' src hr' hsrc
              refine hkept r' src (by omega) (hsrc.put hr' ?_)
              rw [List.length_append, List.length_take, List.length_singleton]
              omega
          · rename_i hoff
            obtain ⟨hlen, hlaid, hkept⟩ := ih h
            exact ⟨hlen, hlaid.full (by rw [hlen]; omega) t, hkept⟩

end Block
