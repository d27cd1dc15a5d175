import Mathlib.Data.List.TakeDrop

/-!
# A stream in frames of one size

A stream that comes in pieces of any sizes is handed on in frames of one size, as soon as there is a whole one.
What has been handed on, and what is kept for the next frame, is known from the stream alone, however it was cut
into pieces.
-/

namespace Framing

variable {α : Type*} {n : Nat} {xs ys rest rest' : List α} {fs fs' : List (List α)}

/-- `fs` are the frames of `n` elements that `xs` holds, and `rest` is not yet a frame. -/
structure Framed (n : Nat) (xs : List α) (fs : List (List α)) (rest : List α) : Prop where
  size : ∀ f ∈ fs, f.length = n
  stream : xs = fs.flatten ++ rest
  short : rest.length < n

theorem Framed.nil (hn : 0 < n) : Framed n ([] : List α) [] [] := ⟨by simp, rfl, hn⟩

/-- What is short of a frame is kept. -/
theorem Framed.of_short (h : xs.length < n) : Framed n xs [] xs := ⟨by simp, rfl, h⟩

/-- A frame, and the frames of what follows it. -/
theorem Framed.cons {f : List α} (hf : f.length = n) (h : Framed n xs fs rest) :
    Framed n (f ++ xs) (f :: fs) rest := by
  refine ⟨?_, ?_, h.short⟩
  · rw [List.forall_mem_cons]
    exact ⟨hf, h.size⟩
  · rw [List.flatten_cons, List.append_assoc, ← h.stream]

/-- More of the stream comes behind what was kept. -/
theorem Framed.append (h : Framed n xs fs rest) (h' : Framed n (rest ++ ys) fs' rest') :
    Framed n (xs ++ ys) (fs ++ fs') rest' := by
  refine ⟨?_, ?_, h'.short⟩
  · intro f hf
    rcases List.mem_append.mp hf with hf | hf
    · exact h.size f hf
    · exact h'.size f hf
  · rw [h.stream, List.append_assoc, h'.stream, List.flatten_append, List.append_assoc]

theorem length_flatten_of_size (h : ∀ f ∈ fs, f.length = n) : fs.flatten.length = fs.length * n := by
  have hlengths : fs.map List.length = List.replicate fs.length n := by
    apply List.eq_replicate_iff.mpr
    refine ⟨List.length_map _, ?_⟩
    intro k hk
    obtain ⟨f, hf, rfl⟩ := List.mem_map.mp hk
    exact h f hf
  rw [List.length_flatten, hlengths, List.sum_replicate_nat]

/-- The frame with the number `k` begins `k` frames into the stream. -/
theorem Framed.getElem? (h : Framed n xs fs rest) {k : Nat} {f : List α} (hf : fs[k]? = some f) :
    (xs.drop (k * n)).take n = f := by
  obtain ⟨hk, hget⟩ := List.getElem?_eq_some_iff.mp hf
  have hbefore : (fs.take k).flatten.length = k * n := by
    rw [length_flatten_of_size fun f hf => h.size f (List.mem_of_mem_take hf), List.length_take_of_le (by omega)]
  have hsplit : xs = (fs.take k).flatten ++ (f ++ ((fs.drop (k + 1)).flatten ++ rest)) := by
    calc
      xs = (fs.take k ++ fs.drop k).flatten ++ rest := by rw [List.take_append_drop, h.stream]
      _ = (fs.take k).flatten ++ (f ++ ((fs.drop (k + 1)).flatten ++ rest)) := by
        rw [List.drop_eq_getElem_cons hk, hget, List.flatten_append, List.flatten_cons, List.append_assoc,
          List.append_assoc]
  have hsize : f.length = n := h.size f (List.mem_of_getElem? hf)
  rw [hsplit, List.drop_left' hbefore, List.take_left' hsize]

/-! ### Channels

An interleaved buffer has the samples of its channels in turn. -/

/-- The channel of each sample of a buffer. -/
def channels (ch : Nat) (xs : List α) : List Nat := (List.range xs.length).map fun i => i % ch

theorem getElem?_channels {ch i : Nat} (h : i < xs.length) : (channels ch xs)[i]? = some (i % ch) := by
  rw [channels, List.getElem?_map, List.getElem?_range h, Option.map_some]

theorem channels_append {ch : Nat} (h : ch ∣ xs.length) (ys : List α) :
    channels ch (xs ++ ys) = channels ch xs ++ channels ch ys := by
  obtain ⟨q, hq⟩ := h
  have hshift : (fun i => i % ch) ∘ (fun i => xs.length + i) = fun i => i % ch := by
    funext i
    rw [Function.comp_apply, hq, Nat.mul_add_mod]
  unfold channels
  rw [List.length_append, List.range_add, List.map_append, List.map_map, hshift]

/-- Buffers of whole instants, one after the other, are one stream of them. -/
theorem flatMap_channels {ch : Nat} {xss : List (List α)} (h : ∀ xs ∈ xss, ch ∣ xs.length) :
    xss.flatMap (channels ch) = channels ch xss.flatten := by
  induction xss with
  | nil => rfl
  | cons xs xss ih =>
      obtain ⟨hxs, hxss⟩ := List.forall_mem_cons.mp h
      rw [List.flatMap_cons, List.flatten_cons, channels_append hxs, ih hxss]

end Framing
