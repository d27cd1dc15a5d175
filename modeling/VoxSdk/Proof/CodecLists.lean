import VoxSdk.CodecList

/-!
# Codec lists are never cut

Eight names of at most 31 characters, the commas between them and the NUL are 256 bytes, which is what the
buffer has. No alias resolves to more than 31 characters, so every list of codecs fits.
-/

namespace VoxSdk

open Text

variable {α : Type} {resolve : α → Option CStr} {sz : Nat} {names : List CStr} {name buf : CStr}

/-! ### The loop -/

/-- The entries the loop looks at: the first eight, and no more than are counted. -/
def listed (entries : List α) (count : Int) : List α := entries.take (min count.toNat 8)

theorem listStrFrom_eq (count : Int) (i : Nat) (entries : List α) (buf : CStr) :
    listStrFrom resolve count sz i entries buf =
      ((entries.take (min count.toNat 8 - i)).filterMap resolve).foldl (appendName sz) buf := by
  induction entries generalizing i buf with
  | nil => rw [List.take_nil]; rfl
  | cons entry entries ih =>
      unfold listStrFrom
      by_cases hmore : (i : Int) < count ∧ i < 8
      · have hnext : min count.toNat 8 - i = min count.toNat 8 - (i + 1) + 1 := by omega
        rw [if_pos hmore, hnext, List.take_succ_cons]
        cases hresolve : resolve entry with
        | none => rw [List.filterMap_cons_none hresolve, ← ih]
        | some name => rw [List.filterMap_cons_some hresolve, List.foldl_cons, ← ih]
      · have hdone : min count.toNat 8 - i = 0 := by omega
        rw [if_neg hmore, hdone]
        rfl

/-- A name that fits, with its comma and the NUL, is appended whole. -/
theorem appendName_joined (hne : ∀ t ∈ names, t ≠ [])
    (hfits : ([','].intercalate (names ++ [name])).length < sz) :
    appendName sz ([','].intercalate names) name = [','].intercalate (names ++ [name]) := by
  by_cases hnames : names = []
  · subst hnames
    rw [List.nil_append, List.intercalate_singleton] at hfits ⊢
    have hroom : name.length ≤ sz - 1 := by omega
    simp [appendName, strncat, List.intercalate, hroom]
  · have hbuf : [','].intercalate names ≠ [] := fun hnil => hnames ((intercalate_eq_nil_iff hne).mp hnil)
    rw [intercalate_append_singleton hnames] at hfits ⊢
    rw [List.length_append, List.length_cons] at hfits
    have hcomma : [','].take (sz - ([','].intercalate names).length - 1) = [','] := by
      apply List.take_of_length_le
      rw [List.length_singleton]
      omega
    simp only [appendName, strncat, if_pos hbuf, hcomma]
    rw [List.take_of_length_le (by rw [List.length_append, List.length_singleton]; omega), List.append_assoc,
      List.singleton_append]

theorem foldl_appendName (hne : ∀ t ∈ names, t ≠ []) {more : List CStr} (hmore : ∀ t ∈ more, t ≠ [])
    (hfits : ([','].intercalate (names ++ more)).length < sz) :
    more.foldl (appendName sz) ([','].intercalate names) = [','].intercalate (names ++ more) := by
  induction more generalizing names with
  | nil => rw [List.append_nil]; rfl
  | cons name more ih =>
      rw [List.append_cons] at hfits ⊢
      have hone : ([','].intercalate (names ++ [name])).length < sz :=
        lt_of_le_of_lt (length_intercalate_le _ more) hfits
      have hnames : ∀ t ∈ names ++ [name], t ≠ [] := by
        intro t ht
        rcases List.mem_append.mp ht with ht | ht
        · exact hne t ht
        · exact hmore t (List.mem_singleton.mp ht ▸ List.mem_cons_self)
      rw [List.foldl_cons, appendName_joined hne hone,
        ih hnames (fun t ht => hmore t (List.mem_cons_of_mem name ht)) hfits]

/-- What a loop writes whose entries resolve to names of at most 31 characters. -/
theorem listStr_eq (entries : List α) (count : Int)
    (hnames : ∀ name ∈ (listed entries count).filterMap resolve, name ≠ [] ∧ name.length ≤ 31) :
    listStrFrom resolve count codecsSize 0 entries [] =
        [','].intercalate ((listed entries count).filterMap resolve) ∧
      ([','].intercalate ((listed entries count).filterMap resolve)).length < codecsSize := by
  have hlen : ((listed entries count).filterMap resolve).length ≤ 8 := by
    apply (List.length_filterMap_le resolve _).trans
    rw [listed, List.length_take]
    omega
  have hfits : ([','].intercalate ((listed entries count).filterMap resolve)).length < codecsSize := by
    by_cases hnone : (listed entries count).filterMap resolve = []
    · rw [hnone]
      decide
    · apply (length_intercalate_lt hnone fun name hname => (hnames name hname).2).trans_le
      unfold codecsSize
      omega
  refine ⟨?_, hfits⟩
  rw [listStrFrom_eq, Nat.sub_zero]
  exact @foldl_appendName _ [] (by simp) _ (fun name hname => (hnames name hname).1) hfits

/-! ### The names -/

/-- A character that small letters leave as it is does not come in with the case. -/
theorem comma_notMem_of_strCaseEq {t : String} (ht : ',' ∉ t.toList.map Char.toLower)
    (h : strCaseEq name t = true) : ',' ∉ name := by
  intro hmem
  have hlower := List.mem_map_of_mem (f := Char.toLower) hmem
  rw [of_decide_eq_true h] at hlower
  exact ht hlower

/-- What an alias resolves to. -/
structure Resolved (name resolved : CStr) : Prop where
  ne_nil : resolved ≠ []
  length_le : resolved.length ≤ 31
  comma : ',' ∉ resolved
  name_comma : ',' ∉ name

/-- A name stands for itself unless it is empty or an alias. -/
theorem normalizeCodecName_cases (name : CStr) :
    (name = [] ∧ normalizeCodecName name = none) ∨ (name ≠ [] ∧ normalizeCodecName name = some name) ∨
      ∃ resolved, normalizeCodecName name = some resolved ∧ Resolved name resolved := by
  unfold normalizeCodecName
  by_cases hnil : name = []
  · rw [if_pos hnil]
    exact .inl ⟨hnil, rfl⟩
  · rw [if_neg hnil]
    right
    split_ifs with hopus hulaw halaw hg722 hg729 hg726
    · exact .inr ⟨_, rfl, by decide, by decide, by decide, comma_notMem_of_strCaseEq (by decide) hopus⟩
    · refine .inr ⟨_, rfl, by decide, by decide, by decide, ?_⟩
      simp only [Bool.or_eq_true, or_assoc] at hulaw
      rcases hulaw with h | h | h <;> exact comma_notMem_of_strCaseEq (by decide) h
    · refine .inr ⟨_, rfl, by decide, by decide, by decide, ?_⟩
      simp only [Bool.or_eq_true, or_assoc] at halaw
      rcases halaw with h | h | h <;> exact comma_notMem_of_strCaseEq (by decide) h
    · exact .inr ⟨_, rfl, by decide, by decide, by decide, comma_notMem_of_strCaseEq (by decide) hg722⟩
    · exact .inr ⟨_, rfl, by decide, by decide, by decide, comma_notMem_of_strCaseEq (by decide) hg729⟩
    · refine .inr ⟨_, rfl, by decide, by decide, by decide, ?_⟩
      simp only [Bool.or_eq_true] at hg726
      rcases hg726 with h | h <;> exact comma_notMem_of_strCaseEq (by decide) h
    · exact .inl ⟨hnil, rfl⟩

theorem resolved_of_mem {entries : List CStr} (hnames : ∀ name ∈ entries, name.length ≤ 31) :
    ∀ name ∈ entries.filterMap normalizeCodecName, name ≠ [] ∧ name.length ≤ 31 := by
  intro name hname
  obtain ⟨entry, hentry, hresolve⟩ := List.mem_filterMap.mp hname
  obtain ⟨-, hnone⟩ | ⟨hne, hself⟩ | ⟨resolved, hresolved, h⟩ := normalizeCodecName_cases entry
  · rw [hnone] at hresolve
    cases hresolve
  · obtain rfl := Option.some.inj (hself.symm.trans hresolve)
    exact ⟨hne, hnames entry hentry⟩
  · obtain rfl := Option.some.inj (hresolved.symm.trans hresolve)
    exact ⟨h.ne_nil, h.length_le⟩

/-- The names bring no commas but those they have themselves. -/
theorem tidy_resolved_iff (entries : List CStr) :
    (∀ name ∈ entries.filterMap normalizeCodecName, Tidy ',' name) ↔ ∀ name ∈ entries, Tidy ',' name := by
  induction entries with
  | nil => exact iff_of_true (by simp) (by simp)
  | cons entry entries ih =>
      rw [List.forall_mem_cons]
      obtain ⟨hnil, hnone⟩ | ⟨-, hself⟩ | ⟨resolved, hresolved, h⟩ := normalizeCodecName_cases entry
      · rw [List.filterMap_cons_none hnone, ih, hnil]
        exact (and_iff_right tidy_nil).symm
      · rw [List.filterMap_cons_some hself, List.forall_mem_cons, ih]
      · rw [List.filterMap_cons_some hresolved, List.forall_mem_cons, ih]
        exact and_congr_left fun _ => iff_of_true (tidy_of_notMem h.comma) (tidy_of_notMem h.name_comma)

/-- Every codec has a short name without a comma. -/
theorem codecName_spec {codec : Codec} (h : codecName codec = some name) :
    name ≠ [] ∧ name.length ≤ 31 ∧ ',' ∉ name := by
  cases codec <;> simp only [codecName, Option.some.injEq, reduceCtorEq] at h <;> subst h <;> decide

/-! ### The lists -/

/-- **Codec lists are never cut.** The list of the first eight names, and that of the first eight enum values,
is what they resolve to, each name behind a comma but the first, and it fits with its NUL. The list of names has
a comma too many just where one of the names does, and the list of enum values never. -/
theorem codec_lists_exact :
    (∀ (names : List CStr) (count : Int), (∀ name ∈ listed names count, name.length ≤ 31) →
      codecNamesListStr names count codecsSize =
          [','].intercalate ((listed names count).filterMap normalizeCodecName) ∧
        (codecNamesListStr names count codecsSize).length < codecsSize ∧
        (Tidy ',' (codecNamesListStr names count codecsSize) ↔ ∀ name ∈ listed names count, Tidy ',' name)) ∧
    ∀ (codecs : List Codec) (count : Int),
      codecListStr codecs count codecsSize = [','].intercalate ((listed codecs count).filterMap codecName) ∧
        (codecListStr codecs count codecsSize).length < codecsSize ∧
        Tidy ',' (codecListStr codecs count codecsSize) := by
  constructor
  · intro names count hnames
    have hresolved := resolved_of_mem hnames
    obtain ⟨heq, hlt⟩ := listStr_eq names count hresolved
    rw [codecNamesListStr, heq]
    refine ⟨rfl, hlt, ?_⟩
    rw [tidy_intercalate_iff fun name hname => (hresolved name hname).1,
      tidy_resolved_iff]
  · intro codecs count
    have hnames : ∀ name ∈ (listed codecs count).filterMap codecName,
        name ≠ [] ∧ name.length ≤ 31 ∧ ',' ∉ name := by
      intro name hname
      obtain ⟨codec, -, hcodec⟩ := List.mem_filterMap.mp hname
      exact codecName_spec hcodec
    obtain ⟨heq, hlt⟩ :=
      listStr_eq codecs count fun name hname => ⟨(hnames name hname).1, (hnames name hname).2.1⟩
    rw [codecListStr, heq]
    refine ⟨rfl, hlt, ?_⟩
    rw [tidy_intercalate_iff fun name hname => (hnames name hname).1]
    exact fun name hname => tidy_of_notMem (hnames name hname).2.2

/-- An alias, an empty entry, a codec the SDK does not know, and an entry past the count. -/
theorem codec_lists_exact_aliases :
    codecNamesListStr ["Ulaw".toList, [], "speex/16000".toList, "opus".toList] 3 codecsSize =
      [','].intercalate ((listed ["Ulaw".toList, [], "speex/16000".toList, "opus".toList] 3).filterMap
        normalizeCodecName) :=
  (codec_lists_exact.1 ["Ulaw".toList, [], "speex/16000".toList, "opus".toList] 3 (by decide)).1

/-- A name the SDK does not know is passed on with the comma it begins with. -/
theorem codec_list_leading_comma :
    ¬ ∀ (names : List CStr) (count : Int), (∀ name ∈ names, name.length ≤ 31) →
      Tidy ',' (codecNamesListStr names count codecsSize) := by
  intro h
  have hlist : codecNamesListStr [",speex".toList] 1 codecsSize = ",speex".toList := by decide
  have htidy := h [",speex".toList] 1 (by decide)
  rw [hlist] at htidy
  exact htidy.head rfl

/-- The names of the list that takes precedence. -/
def preferredCodecs (acct cfg : CodecCfg) : List CStr :=
  if acct.audioCodecNameCount > 0 then
    (listed acct.audioCodecNames acct.audioCodecNameCount).filterMap normalizeCodecName
  else if acct.audioCodecCount > 0 then (listed acct.audioCodecs acct.audioCodecCount).filterMap codecName
  else if cfg.audioCodecNameCount > 0 then
    (listed cfg.audioCodecNames cfg.audioCodecNameCount).filterMap normalizeCodecName
  else if cfg.audioCodecCount > 0 then (listed cfg.audioCodecs cfg.audioCodecCount).filterMap codecName
  else []

theorem ne_nil_of_mem_preferredCodecs {acct cfg : CodecCfg} (h : name ∈ preferredCodecs acct cfg) : name ≠ [] := by
  have hnames : ∀ entries : List CStr, name ∈ entries.filterMap normalizeCodecName → name ≠ [] := by
    rintro entries hname rfl
    obtain ⟨entry, -, hentry⟩ := List.mem_filterMap.mp hname
    obtain ⟨-, hnone⟩ | ⟨hne, hself⟩ | ⟨resolved, hresolved, hspec⟩ := normalizeCodecName_cases entry
    · rw [hnone] at hentry
      cases hentry
    · exact hne (Option.some.inj (hself.symm.trans hentry))
    · exact hspec.ne_nil (Option.some.inj (hresolved.symm.trans hentry))
  have hcodecs : ∀ entries : List Codec, name ∈ entries.filterMap codecName → name ≠ [] := by
    intro entries hname
    obtain ⟨codec, -, hcodec⟩ := List.mem_filterMap.mp hname
    exact (codecName_spec hcodec).1
  unfold preferredCodecs at h
  split_ifs at h
  · exact hnames _ h
  · exact hcodecs _ h
  · exact hnames _ h
  · exact hcodecs _ h
  · cases h

/-- What baresip is given is the list that takes precedence, or the default where that names no codec; it is
never empty. -/
theorem configureAudioCodecs_eq {acct cfg : CodecCfg} (hacct : ∀ name ∈ acct.audioCodecNames, name.length ≤ 31)
    (hcfg : ∀ name ∈ cfg.audioCodecNames, name.length ≤ 31) :
    configureAudioCodecs acct cfg =
      if preferredCodecs acct cfg = [] then voxDefaultAudioCodecs
      else [','].intercalate (preferredCodecs acct cfg) := by
  have hnames (names : List CStr) (count : Int) (h : ∀ name ∈ names, name.length ≤ 31) :
      codecNamesListStr names count codecsSize =
        [','].intercalate ((listed names count).filterMap normalizeCodecName) :=
    (listStr_eq names count (resolved_of_mem fun name hname => h name (List.mem_of_mem_take hname))).1
  have hcodecs (codecs : List Codec) (count : Int) :
      codecListStr codecs count codecsSize = [','].intercalate ((listed codecs count).filterMap codecName) := by
    refine (listStr_eq codecs count fun name hname => ?_).1
    obtain ⟨codec, -, hcodec⟩ := List.mem_filterMap.mp hname
    exact ⟨(codecName_spec hcodec).1, (codecName_spec hcodec).2.1⟩
  have hjoined : configureAudioCodecs acct cfg =
      if [','].intercalate (preferredCodecs acct cfg) = [] then strNcpy codecsSize voxDefaultAudioCodecs
      else [','].intercalate (preferredCodecs acct cfg) := by
    rw [configureAudioCodecs, hnames _ _ hacct, hnames _ _ hcfg, hcodecs, hcodecs]
    unfold preferredCodecs
    simp only [apply_ite [','].intercalate]
    rfl
  rw [hjoined]
  refine if_congr (intercalate_eq_nil_iff fun name hname => ne_nil_of_mem_preferredCodecs hname) ?_ rfl
  decide

end VoxSdk
