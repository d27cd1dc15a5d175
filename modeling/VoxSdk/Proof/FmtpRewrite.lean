import VoxSdk.Adapt
import VoxSdk.Proof.OutboundUri

/-!
# Rewriting an fmtp

What the rewriter produces is the kept parameters, those that are neither empty nor recognised as the
bitrate, joined again, and the new bitrate behind them; `EINVAL` is what does not fit. Rewriting that again
keeps the same parameters. Whether the reader finds the bitrate once is a matter of the one thing the two
may see differently: a parameter that the reader takes for the bitrate, white space around its name
included, and the rewriter does not.
-/

namespace VoxSdk

open Text

/-! ### The reader -/

/-- libre's reader of an fmtp, as far as it is relied on: what stands between two `;` names a parameter, in
small letters, and gives its value, or says nothing. An empty one says nothing, and a name that is followed
at once by `=` or the end is read in any case. -/
structure FmtpReader where
  param : CStr → Option (CStr × CStr)
  param_nil : param [] = none
  param_recognised : ∀ p, isMaxAverageBitrate p = true → ∃ v, param p = some (maxAverageBitrate, v)
  param_bitrate : ∀ b, param (bitrateParam b) = some (maxAverageBitrate, (Nat.repr b.toNat).toList)

namespace FmtpReader

variable (r : FmtpReader)

/-- The parameters of an fmtp, in order. -/
def params (s : CStr) : List (CStr × CStr) := (s.splitOn ';').filterMap r.param

/-- `p` is a bitrate to the reader. -/
def IsBitrate (p : CStr) : Prop := (r.param p).map Prod.fst = some maxAverageBitrate

instance (p : CStr) : Decidable (r.IsBitrate p) := inferInstanceAs (Decidable (_ = _))

/-- Nothing of an fmtp is a bitrate to the reader and not to the rewriter. -/
def Recognises (s : CStr) : Prop := ∀ p ∈ s.splitOn ';', r.IsBitrate p → isMaxAverageBitrate p = true

instance (s : CStr) : Decidable (r.Recognises s) := inferInstanceAs (Decidable (∀ p ∈ _, _ → _))

end FmtpReader

/-! ### What is kept -/

/-- Neither empty nor the bitrate. -/
def isKept (p : CStr) : Bool := decide (p ≠ []) && !isMaxAverageBitrate p

def keptParams (s : CStr) : List CStr := (s.splitOn ';').filter isKept

/-- The text the rewriter is after. -/
def rewritten (s : CStr) (bitrate : UInt32) : CStr :=
  [';'].intercalate (keptParams s ++ if bitrate = 0 then [] else [bitrateParam bitrate])

theorem isKept_iff (p : CStr) : isKept p = true ↔ p ≠ [] ∧ isMaxAverageBitrate p = false := by
  rw [isKept, Bool.and_eq_true, decide_eq_true_eq, Bool.not_eq_true']

theorem fmtpCopy_filter (sz : Nat) (ps : List CStr) (b : FmtpBuf) :
    fmtpCopy sz ps b = fmtpCopy sz (ps.filter isKept) b := by
  induction ps generalizing b with
  | nil => rfl
  | cons p ps ih =>
      by_cases hkept : isKept p = true
      · have hkept' := (isKept_iff p).mp hkept
        rw [List.filter_cons_of_pos hkept, fmtpCopy, fmtpCopy, if_pos hkept', if_pos hkept', ih]
      · rw [List.filter_cons_of_neg hkept, fmtpCopy, if_neg (mt (isKept_iff p).mpr hkept), ih]

/-- The rewriter sees the kept parameters only. -/
theorem voxAdaptFmtpSetBitrate_congr {s s' : CStr} (h : keptParams s = keptParams s') (sz : Nat)
    (bitrate : UInt32) :
    voxAdaptFmtpSetBitrate sz s bitrate = voxAdaptFmtpSetBitrate sz s' bitrate := by
  unfold voxAdaptFmtpSetBitrate
  rw [fmtpCopy_filter, show (s.splitOn ';').filter isKept = keptParams s from rfl, h,
    fmtpCopy_filter sz (s'.splitOn ';')]
  rfl

theorem isMaxAverageBitrate_bitrateParam (b : UInt32) : isMaxAverageBitrate (bitrateParam b) = true := by
  have hlen : maxAverageBitrate.length ≤ (bitrateParam b).length := by simp [bitrateParam]
  have hname : startsWithCase maxAverageBitrate (bitrateParam b) = true := by
    rw [startsWithCase, bitrateParam, List.take_left]
    decide
  have hequals : (bitrateParam b)[maxAverageBitrate.length]? = some '=' := by
    rw [bitrateParam, List.getElem?_append_right le_rfl, Nat.sub_self, List.getElem?_cons_zero]
  rw [isMaxAverageBitrate, hname, hequals]
  simpa using hlen

theorem length_bitrateParam (b : UInt32) : 17 < (bitrateParam b).length := by
  have hname : maxAverageBitrate.length = 17 := by decide
  rw [bitrateParam, List.length_append, List.length_cons, hname]
  omega

theorem notMem_bitrateParam (b : UInt32) : ';' ∉ bitrateParam b := by
  rw [bitrateParam, List.mem_append, List.mem_cons]
  rintro (hname | hequals | hdigits)
  · revert hname
    decide
  · revert hequals
    decide
  · exact notMem_repr (by decide) _ hdigits

theorem keptParams_spec {s p : CStr} (h : p ∈ keptParams s) : isKept p = true ∧ ';' ∉ p :=
  ⟨(List.mem_filter.mp h).2, notMem_of_mem_splitOn (List.mem_filter.mp h).1⟩

theorem keptParams_rewritten (s : CStr) (bitrate : UInt32) :
    keptParams (rewritten s bitrate) = keptParams s := by
  have hsplit : ∀ p ∈ keptParams s ++ (if bitrate = 0 then [] else [bitrateParam bitrate]), ';' ∉ p := by
    intro p hp
    obtain hkept | hnew := List.mem_append.mp hp
    · exact (keptParams_spec hkept).2
    · split at hnew
      · cases hnew
      · exact List.mem_singleton.mp hnew ▸ notMem_bitrateParam bitrate
  have hdropped : (if bitrate = 0 then [] else [bitrateParam bitrate]).filter isKept = [] := by
    split
    · rfl
    · rw [List.filter_cons_of_neg (by simp [isKept, isMaxAverageBitrate_bitrateParam]), List.filter_nil]
  calc keptParams (rewritten s bitrate)
      = (keptParams s ++ if bitrate = 0 then [] else [bitrateParam bitrate]).filter isKept :=
        filter_splitOn_intercalate (by decide) hsplit
    _ = (keptParams s).filter isKept ++ [] := by rw [List.filter_append, hdropped]
    _ = keptParams s := by rw [List.append_nil, keptParams, List.filter_filter]; simp

/-! ### The buffer -/

section Buffer

variable {sz : Nat} {b : FmtpBuf} {done ps : List CStr}

theorem FmtpBuf.text_put_separator (hb : b.text = [';'].intercalate done) (hdone : ∀ p ∈ done, p ≠ [])
    (p : CStr) : (b.put (b.separator ++ p)).text = [';'].intercalate (done ++ [p]) := by
  have hnil : b.text = [] ↔ done = [] := hb ▸ intercalate_eq_nil_iff hdone
  by_cases hfirst : done = []
  · simp [put, separator, hnil.mpr hfirst, hfirst, List.intercalate]
  · rw [put, separator, if_neg (mt hnil.mp hfirst), intercalate_append_singleton hfirst, hb]
    rfl

theorem isKept_append {p : CStr} (hdone : ∀ q ∈ done, isKept q = true) (hp : isKept p = true) :
    ∀ q ∈ done ++ [p], isKept q = true := by
  intro q hq
  obtain hq | hq := List.mem_append.mp hq
  · exact hdone q hq
  · exact List.mem_singleton.mp hq ▸ hp

/-- The loop joins what it is given to what is there. -/
theorem fmtpCopy_text (hdone : ∀ p ∈ done, isKept p = true) (hps : ∀ p ∈ ps, isKept p = true)
    (hb : b.text = [';'].intercalate done) (hok : (fmtpCopy sz ps b).2 = true) :
    (fmtpCopy sz ps b).1.text = [';'].intercalate (done ++ ps) := by
  induction ps generalizing b done with
  | nil => rw [List.append_nil, fmtpCopy, hb]
  | cons p ps ih =>
      obtain ⟨hp, hps⟩ := List.forall_mem_cons.mp hps
      rw [fmtpCopy, if_pos ((isKept_iff p).mp hp)] at hok ⊢
      split at hok
      · cases hok
      · next hroom =>
          have htext := FmtpBuf.text_put_separator hb (fun q hq => ((isKept_iff q).mp (hdone q hq)).1) p
          rw [if_neg hroom, List.append_cons]
          exact ih (isKept_append hdone hp) hps htext hok

/-- And finds room for it, if there is room for two bytes more than the text that comes out. -/
theorem fmtpCopy_fits (hdone : ∀ p ∈ done, isKept p = true) (hps : ∀ p ∈ ps, isKept p = true)
    (hb : b.text = [';'].intercalate done)
    (hroom : ([';'].intercalate (done ++ ps)).length + 2 ≤ sz) : (fmtpCopy sz ps b).2 = true := by
  induction ps generalizing b done with
  | nil => rfl
  | cons p ps ih =>
      obtain ⟨hp, hps⟩ := List.forall_mem_cons.mp hps
      have htext := FmtpBuf.text_put_separator hb (fun q hq => ((isKept_iff q).mp (hdone q hq)).1) p
      rw [List.append_cons] at hroom
      have hle : b.text.length + p.length ≤ ([';'].intercalate (done ++ [p])).length := by
        rw [← htext, FmtpBuf.put, List.length_append, List.length_append]
        omega
      have hmono := length_intercalate_le (c := ';') (done ++ [p]) ps
      rw [fmtpCopy, if_pos ((isKept_iff p).mp hp), if_neg (by omega)]
      exact ih (isKept_append hdone hp) hps htext hroom

theorem fmtpCopy_written (hb : b.written ≤ sz) : (fmtpCopy sz ps b).1.written ≤ sz := by
  induction ps generalizing b with
  | nil => exact hb
  | cons p ps ih =>
      unfold fmtpCopy
      split_ifs with hkept hroom
      · exact hb
      · have hsep : b.separator.length ≤ 1 := by
          unfold FmtpBuf.separator
          split <;> simp
        apply ih
        rw [FmtpBuf.put, List.length_append]
        exact max_le hb (by omega)
      · exact ih hb

theorem FmtpBuf.print_written (hb : b.written ≤ sz) (s : CStr) : (b.print sz s).1.written ≤ sz := by
  unfold FmtpBuf.print
  split_ifs with hroom
  · exact max_le hb (by omega)
  · exact max_le hb le_rfl

end Buffer

theorem rewritten_zero (s : CStr) : rewritten s 0 = [';'].intercalate (keptParams s) := by
  rw [rewritten, if_pos rfl, List.append_nil]

theorem text_put_bitrate {s : CStr} {bitrate : UInt32} (hrate : bitrate ≠ 0) {b : FmtpBuf}
    (hb : b.text = [';'].intercalate (keptParams s)) :
    (b.put (b.separator ++ bitrateParam bitrate)).text = rewritten s bitrate := by
  rw [FmtpBuf.text_put_separator hb fun p hp => ((isKept_iff p).mp (keptParams_spec hp).1).1,
    rewritten, if_neg hrate]

/-- The copy of the kept parameters, which the bitrate is appended to. -/
def keptCopy (sz : Nat) (s : CStr) : FmtpBuf × Bool := fmtpCopy sz (keptParams s) ⟨[], 1⟩

theorem keptCopy_text {sz : Nat} {s : CStr} (hok : (keptCopy sz s).2 = true) :
    (keptCopy sz s).1.text = [';'].intercalate (keptParams s) :=
  fmtpCopy_text (List.forall_mem_nil _) (fun _ hp => (keptParams_spec hp).1) rfl hok

theorem keptCopy_fits {sz : Nat} {s : CStr} (h : ([';'].intercalate (keptParams s)).length + 2 ≤ sz) :
    (keptCopy sz s).2 = true :=
  fmtpCopy_fits (List.forall_mem_nil _) (fun _ hp => (keptParams_spec hp).1) rfl h

theorem voxAdaptFmtpSetBitrate_eq {sz : Nat} (hsz : sz ≠ 0) (s : CStr) (bitrate : UInt32) :
    voxAdaptFmtpSetBitrate sz s bitrate =
      if (keptCopy sz s).2 = true then
        if bitrate ≠ 0 then
          (keptCopy sz s).1.print sz ((keptCopy sz s).1.separator ++ bitrateParam bitrate)
        else keptCopy sz s
      else keptCopy sz s := by
  have hkept : fmtpCopy sz ((s.splitOn ';').filter isKept) ⟨[], 1⟩ = keptCopy sz s := rfl
  rw [voxAdaptFmtpSetBitrate, if_neg hsz, fmtpCopy_filter, hkept]
  cases hcopy : keptCopy sz s with
  | mk b ok => cases ok <;> simp

theorem voxAdaptFmtpSetBitrate_written (sz : Nat) (s : CStr) (bitrate : UInt32) :
    (voxAdaptFmtpSetBitrate sz s bitrate).1.written ≤ sz := by
  by_cases hsz : sz = 0
  · rw [voxAdaptFmtpSetBitrate, if_pos hsz]
    exact Nat.zero_le sz
  · have hfirst : (FmtpBuf.mk [] 1).written ≤ sz := Nat.one_le_iff_ne_zero.mpr hsz
    have hcopy : (keptCopy sz s).1.written ≤ sz := fmtpCopy_written hfirst
    rw [voxAdaptFmtpSetBitrate_eq hsz]
    split_ifs
    · exact FmtpBuf.print_written hcopy _
    · exact hcopy
    · exact hcopy

theorem voxAdaptFmtpSetBitrate_text {sz : Nat} {s : CStr} {bitrate : UInt32}
    (hok : (voxAdaptFmtpSetBitrate sz s bitrate).2 = true) :
    (voxAdaptFmtpSetBitrate sz s bitrate).1.text = rewritten s bitrate := by
  by_cases hsz : sz = 0
  · rw [voxAdaptFmtpSetBitrate, if_pos hsz] at hok
    cases hok
  · rw [voxAdaptFmtpSetBitrate_eq hsz] at hok ⊢
    by_cases hcopy : (keptCopy sz s).2 = true
    · have htext := keptCopy_text hcopy
      by_cases hrate : bitrate ≠ 0
      · rw [if_pos hcopy, if_pos hrate, FmtpBuf.print] at hok ⊢
        split at hok
        · next hroom =>
            rw [if_pos hroom]
            exact text_put_bitrate hrate htext
        · cases hok
      · rw [if_pos hcopy, if_neg hrate, htext, not_not.mp hrate, rewritten_zero]
    · rw [if_neg hcopy] at hok
      exact absurd hok hcopy

theorem voxAdaptFmtpSetBitrate_fits_iff (sz : Nat) (s : CStr) {bitrate : UInt32} (hrate : bitrate ≠ 0) :
    (voxAdaptFmtpSetBitrate sz s bitrate).2 = true ↔ (rewritten s bitrate).length < sz := by
  by_cases hsz : sz = 0
  · rw [voxAdaptFmtpSetBitrate, if_pos hsz, hsz]
    simp
  · have hlength : ∀ b : FmtpBuf, b.text = [';'].intercalate (keptParams s) →
        b.text.length + (b.separator ++ bitrateParam bitrate).length = (rewritten s bitrate).length := by
      intro b hb
      rw [← text_put_bitrate hrate hb]
      exact List.length_append.symm
    rw [voxAdaptFmtpSetBitrate_eq hsz]
    by_cases hcopy : (keptCopy sz s).2 = true
    · rw [if_pos hcopy, if_pos hrate, FmtpBuf.print, hlength _ (keptCopy_text hcopy)]
      split <;> simp_all
    · rw [if_neg hcopy, iff_false_left hcopy]
      intro hroom
      have hkept := hlength ⟨[';'].intercalate (keptParams s), 0⟩ rfl
      have hparam := length_bitrateParam bitrate
      rw [List.length_append] at hkept
      exact hcopy (keptCopy_fits (by simp only at hkept; omega))

/-! ### The law -/

section Law

variable (r : FmtpReader) {s : CStr} {bitrate : UInt32}

/-- The bitrate once, behind every other parameter in its old order. -/
def FmtpReader.Replaced (s : CStr) (bitrate : UInt32) (out : CStr) : Prop :=
  r.params out =
    (r.params s).filter (fun q => decide (q.1 ≠ maxAverageBitrate)) ++
      [(maxAverageBitrate, (Nat.repr bitrate.toNat).toList)]

instance (s : CStr) (bitrate : UInt32) (out : CStr) : Decidable (r.Replaced s bitrate out) :=
  inferInstanceAs (Decidable (_ = _))

/-- What is promised of one rewriting: nothing is written past the buffer, and either it is an error or
the bitrate is replaced, and rewriting the result, whatever the rate and the buffer, is rewriting the
original. -/
structure FmtpReader.Rewrites (sz : Nat) (s : CStr) (bitrate : UInt32) : Prop where
  inside : (voxAdaptFmtpSetBitrate sz s bitrate).1.written ≤ sz
  replaced : (voxAdaptFmtpSetBitrate sz s bitrate).2 = true →
    r.Replaced s bitrate (voxAdaptFmtpSetBitrate sz s bitrate).1.text
  again : (voxAdaptFmtpSetBitrate sz s bitrate).2 = true → ∀ sz' bitrate',
    voxAdaptFmtpSetBitrate sz' (voxAdaptFmtpSetBitrate sz s bitrate).1.text bitrate' =
      voxAdaptFmtpSetBitrate sz' s bitrate'

theorem FmtpReader.params_intercalate {ps : List CStr} (h : ∀ p ∈ ps, ';' ∉ p) :
    r.params ([';'].intercalate ps) = ps.filterMap r.param := by
  by_cases hps : ps = []
  · subst hps
    simp [FmtpReader.params, List.intercalate, r.param_nil]
  · rw [FmtpReader.params, List.splitOn_intercalate ';' h hps]

/-- The reader's view of a rewritten text. -/
theorem FmtpReader.params_rewritten (hrate : bitrate ≠ 0) :
    r.params (rewritten s bitrate) =
      (keptParams s).filterMap r.param ++ [(maxAverageBitrate, (Nat.repr bitrate.toNat).toList)] := by
  rw [rewritten, if_neg hrate, r.params_intercalate, List.filterMap_append]
  · simp [r.param_bitrate]
  · intro p hp
    obtain hkept | hnew := List.mem_append.mp hp
    · exact (keptParams_spec hkept).2
    · exact List.mem_singleton.mp hnew ▸ notMem_bitrateParam bitrate

/-- The kept parameters are read as the others exactly if no bitrate is among them. -/
theorem FmtpReader.kept_eq_iff :
    (keptParams s).filterMap r.param =
      (r.params s).filter (fun q => decide (q.1 ≠ maxAverageBitrate)) ↔ r.Recognises s := by
  constructor
  · intro heq p hp hbitrate
    obtain ⟨⟨name, v⟩, hv, rfl⟩ := Option.map_eq_some_iff.mp hbitrate
    by_contra hmissed
    have hkept : isKept p = true := by
      refine (isKept_iff p).mpr ⟨?_, Bool.not_eq_true _ ▸ hmissed⟩
      rintro rfl
      cases r.param_nil.symm.trans hv
    have hmem : (maxAverageBitrate, v) ∈ (keptParams s).filterMap r.param :=
      List.mem_filterMap.mpr ⟨p, List.mem_filter.mpr ⟨hp, hkept⟩, hv⟩
    rw [heq] at hmem
    simp at hmem
  · intro hall
    rw [keptParams, FmtpReader.params, List.filterMap_filter, List.filter_filterMap]
    apply List.filterMap_congr
    intro p hp
    by_cases hrec : isMaxAverageBitrate p = true
    · obtain ⟨v, hv⟩ := r.param_recognised p hrec
      simp [isKept, hrec, hv, Option.filter]
    · by_cases hnil : p = []
      · simp [isKept, hnil, r.param_nil]
      · rw [if_pos ((isKept_iff p).mpr ⟨hnil, Bool.not_eq_true _ ▸ hrec⟩)]
        cases hparam : r.param p with
        | none => rfl
        | some q =>
            have hname : q.1 ≠ maxAverageBitrate := by
              intro hname
              exact hrec (hall p hp (by rw [FmtpReader.IsBitrate, hparam, ← hname, Option.map_some]))
            simp [Option.filter, hname]

end Law

/-- **The rewriter keeps its law exactly where it knows a bitrate when the reader does.** For every fmtp,
buffer and rate: either the text does not fit, and the rewriter says so, or everything the reader takes for
the bitrate is written without white space around its name. -/
theorem fmtp_rewrites_iff (r : FmtpReader) (sz : Nat) (s : CStr) (bitrate : UInt32)
    (hrate : bitrate ≠ 0) :
    r.Rewrites sz s bitrate ↔ sz ≤ (rewritten s bitrate).length ∨ r.Recognises s := by
  have hfits := voxAdaptFmtpSetBitrate_fits_iff sz s hrate
  have hreplaced : r.Replaced s bitrate (rewritten s bitrate) ↔ r.Recognises s := by
    rw [FmtpReader.Replaced, r.params_rewritten hrate, List.append_left_inj, r.kept_eq_iff]
  constructor
  · intro h
    by_cases hroom : (rewritten s bitrate).length < sz
    · have hok := hfits.mpr hroom
      right
      apply hreplaced.mp
      rw [← voxAdaptFmtpSetBitrate_text hok]
      exact h.replaced hok
    · exact Or.inl (not_lt.mp hroom)
  · intro h
    refine ⟨voxAdaptFmtpSetBitrate_written sz s bitrate, fun hok => ?_, fun hok sz' bitrate' => ?_⟩
    · rw [voxAdaptFmtpSetBitrate_text hok]
      exact hreplaced.mpr (h.resolve_left (not_le.mpr (hfits.mp hok)))
    · rw [voxAdaptFmtpSetBitrate_text hok]
      exact voxAdaptFmtpSetBitrate_congr (keptParams_rewritten s bitrate) sz' bitrate'

/-! ### A reader -/

/-- White space within a line. -/
def isBlank (c : Char) : Bool := decide (c ∈ [' ', '\t', '\r', '\n'])

def isParamChar (c : Char) : Bool := !isBlank c && decide (c ≠ '=')

/-- A name after any white space, and after a `=` with white space around it a value. -/
def readParam (p : CStr) : Option (CStr × CStr) :=
  let q := p.dropWhile isBlank
  let rest := ((q.dropWhile isParamChar).dropWhile isBlank).dropWhile fun c => decide (c = '=')
  if q.takeWhile isParamChar = [] then none
  else some ((q.takeWhile isParamChar).map Char.toLower,
    (rest.dropWhile isBlank).takeWhile fun c => !isBlank c)

/-- Whatever reads as the name of the bitrate has no white space in it. -/
theorem isParamChar_of_toLower {k : CStr} (h : k.map Char.toLower = maxAverageBitrate) :
    ∀ c ∈ k, isParamChar c = true := by
  intro c hc
  have hmem : c.toLower ∈ maxAverageBitrate := h ▸ List.mem_map_of_mem hc
  by_contra hother
  have hcases : c = ' ' ∨ c = '\t' ∨ c = '\r' ∨ c = '\n' ∨ c = '=' := by
    simp only [isParamChar, isBlank, Bool.and_eq_true, Bool.not_eq_true', decide_eq_false_iff_not,
      decide_eq_true_eq, List.mem_cons, List.not_mem_nil, or_false] at hother
    tauto
  obtain rfl | rfl | rfl | rfl | rfl := hcases <;> revert hmem <;> decide

theorem readParam_name {k rest : CStr} (hk : k.map Char.toLower = maxAverageBitrate)
    (hrest : ∀ c ∈ rest.head?, c = '=') :
    readParam (k ++ rest) =
      some (maxAverageBitrate,
        (((rest.dropWhile isBlank).dropWhile fun c => decide (c = '=')).dropWhile isBlank).takeWhile
          fun c => !isBlank c) := by
  have hname := isParamChar_of_toLower hk
  have hne : k ≠ [] := by
    rintro rfl
    exact absurd hk (by decide)
  obtain ⟨c, k', rfl⟩ := List.exists_cons_of_ne_nil hne
  have hblank : isBlank c = false := by
    have hc := hname c List.mem_cons_self
    rw [isParamChar, Bool.and_eq_true, Bool.not_eq_true'] at hc
    exact hc.1
  have hskip : (c :: k' ++ rest).dropWhile isBlank = c :: k' ++ rest := by
    rw [List.cons_append, List.dropWhile_cons_of_neg (by simp [hblank])]
  have hstop : ∀ d, rest.head? = some d → isParamChar d = false := by
    intro d hd
    obtain rfl : d = '=' := hrest d hd
    decide
  have htake : (c :: k' ++ rest).takeWhile isParamChar = c :: k' := takeWhile_append_of_head hname hstop
  have hdrop : (c :: k' ++ rest).dropWhile isParamChar = rest := dropWhile_append_of_head hname hstop
  simp only [readParam, hskip, htake, hdrop, hk, reduceCtorEq, if_false]

theorem digit_not_blank {c : Char} (hc : c.isDigit = true) : isBlank c = false ∧ c ≠ '=' := by
  constructor
  · by_contra hblank
    have hcases : c = ' ' ∨ c = '\t' ∨ c = '\r' ∨ c = '\n' := by
      simp only [isBlank, decide_eq_false_iff_not, not_not, List.mem_cons, List.not_mem_nil,
        or_false] at hblank
      exact hblank
    obtain rfl | rfl | rfl | rfl := hcases <;> revert hc <;> decide
  · rintro rfl
    revert hc
    decide

/-- The reader with white space, as libre has it for ASCII. -/
def blankReader : FmtpReader where
  param := readParam
  param_nil := by decide
  param_recognised := by
    intro p hp
    simp only [isMaxAverageBitrate, startsWithCase, Bool.and_eq_true, Bool.or_eq_true,
      decide_eq_true_eq] at hp
    obtain ⟨⟨-, hname⟩, hend⟩ := hp
    have hrest : ∀ c ∈ (p.drop maxAverageBitrate.length).head?, c = '=' := by
      rw [List.head?_drop]
      intro c hc
      obtain hlen | hequals := hend
      · rw [List.getElem?_eq_none hlen.le] at hc
        cases hc
      · exact (Option.some.inj (hequals.symm.trans hc)).symm
    rw [← List.take_append_drop maxAverageBitrate.length p, readParam_name hname hrest]
    exact ⟨_, rfl⟩
  param_bitrate := by
    intro b
    have hdigits := digits_repr b.toNat
    have hfirst : ∀ c ∈ (Nat.repr b.toNat).toList.head?, isBlank c = false ∧ c ≠ '=' :=
      fun c hc => digit_not_blank (hdigits c (List.mem_of_mem_head? hc))
    obtain ⟨d, ds, hrepr⟩ := List.exists_cons_of_ne_nil (repr_ne_nil b.toNat)
    rw [hrepr] at hfirst hdigits
    obtain ⟨hblank, hequals⟩ := hfirst d rfl
    rw [bitrateParam, readParam_name (by decide) (by simp), hrepr]
    congr 2
    have hrest : ('=' :: d :: ds).dropWhile isBlank = '=' :: d :: ds := rfl
    rw [hrest, List.dropWhile_cons_of_pos (by decide), List.dropWhile_cons_of_neg (by simp [hequals]),
      List.dropWhile_cons_of_neg (by simp [hblank]), List.takeWhile_eq_self_iff]
    intro c hc
    simp [(digit_not_blank (hdigits c hc)).1]

theorem fmtp_rewrites_iff_stereo :
    blankReader.Rewrites 512 "stereo=0;MaxAverageBitrate=24000".toList 12000 :=
  (fmtp_rewrites_iff blankReader 512 _ 12000 (by decide)).mpr (Or.inr (by decide +kernel))

/-- A space in front of the name hides it from the rewriter, and the old rate is read first. -/
theorem fmtp_rewrites_stale :
    ¬∀ (r : FmtpReader) (sz : Nat) (s : CStr) (bitrate : UInt32), bitrate ≠ 0 → r.Rewrites sz s bitrate := by
  intro hall
  have hlaw := hall blankReader 512 "stereo=0; maxaveragebitrate=24000".toList 12000 (by decide)
  have hreplaced := hlaw.replaced (by decide +kernel)
  revert hreplaced
  decide +kernel

end VoxSdk
