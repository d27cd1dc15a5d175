import VoxSdk.OwnedStrings

/-!
# The memory balances

What each function of the copies owns before and after it, whichever allocations fail; and from it, for every run:
nothing is freed twice, and every block that is live is held by exactly one pointer of the configuration, of a live
account or of a wrapper that has not been freed, or it is a header's that `list_append` has refused.
-/

namespace VoxSdk

open Ledger Reactive

/-! ### What is owned -/

/-- The block of a string, unless it is NULL. -/
def strOwned (s : Option Str) : Multiset Nat := owned (s.map Str.block)

/-- The blocks of an array of strings. -/
def strvOwned : Option Strv → Multiset Nat
  | none => 0
  | some arr => (arr.elems.map fun s => strOwned (some s)).sum + {arr.block}

/-- The blocks behind the fields. -/
def fieldsOwned {κ : Type} (fields : List κ) (dst : κ → Option Str) : Multiset Nat :=
  (fields.map fun field => strOwned (dst field)).sum

def CfgStrings.owned (ctx : CfgStrings) : Multiset Nat :=
  fieldsOwned CfgStr.beforeHeaders ctx.str + strvOwned ctx.wsExtraHeaders + fieldsOwned CfgStr.afterHeaders ctx.str

def CustomHdr.owned (h : CustomHdr) : Multiset Nat := strOwned (some h.name) + strOwned (some h.value) + {h.node}

def AcctMem.owned (a : AcctMem) : Multiset Nat :=
  (a.customHdrs.map CustomHdr.owned).sum + fieldsOwned AcctStr.all a.str + {a.node}

def CallMem.owned (c : CallMem) : Multiset Nat := (c.customHdrs.map CustomHdr.owned).sum + {c.node}

/-- What the configuration, the accounts and the wrappers hold. -/
def Strings.held (s : Strings) : Multiset Nat :=
  s.ctx.owned + (s.accounts.map AcctMem.owned).sum + (s.calls.map CallMem.owned).sum

/-- The headers no list has taken. -/
def Strings.lost (s : Strings) : Multiset Nat := (s.stray.map CustomHdr.owned).sum

def Strings.owned (s : Strings) : Multiset Nat := s.held + s.lost

theorem Strings.owned_eq (s : Strings) :
    s.owned = s.ctx.owned + (s.accounts.map AcctMem.owned).sum + (s.calls.map CallMem.owned).sum +
      (s.stray.map CustomHdr.owned).sum :=
  rfl

/-! ### One string, and an array of them -/

section Copies

variable {fails linked : Nat → Bool}

theorem triple_voxStrdup (s : Option CStr) :
    Triple 0 (voxStrdup fails s) fun r own => own = strOwned r ∧ IsCopy fails s (r.map Str.text) := by
  cases s with
  | none => exact .pure ⟨rfl, .rfl⟩
  | some text =>
      refine Triple.alloc.bind ?_
      rintro p _ ⟨rfl, hfail⟩
      cases p with
      | none => exact .pure ⟨rfl, .null (hfail rfl)⟩
      | some block => exact .pure ⟨rfl, .rfl⟩

theorem triple_derefStr (s : Option Str) : Triple (strOwned s) (derefStr s) fun _ own => own = 0 :=
  Triple.free (s.map Str.block)

/-- The elements copied so far and the array are kept, or given back with nothing left. -/
theorem triple_strdupElems (arr : Nat) (dst : List Str) (src : List CStr) :
    Triple ((dst.map fun s => strOwned (some s)).sum + {arr}) (strdupElems fails arr dst src) fun r own =>
      own = strvOwned r ∧
        IsCopy fails (some (dst.map Str.text ++ src)) (r.map fun v => v.elems.map Str.text) := by
  induction src generalizing dst with
  | nil =>
      rw [List.append_nil]
      exact .pure ⟨rfl, .rfl⟩
  | cons text rest ih =>
      rw [← zero_add ((dst.map fun s => strOwned (some s)).sum + {arr})]
      refine (triple_voxStrdup (some text)).bind_frame ?_
      rintro r _ ⟨rfl, hcopy⟩
      cases r with
      | none =>
          refine Triple.of_eq (zero_add _) ?_
          refine (Triple.each (fun s => triple_derefStr (some s)) dst).bind_frame ?_
          rintro - _ rfl
          refine Triple.of_eq (zero_add _) ?_
          refine (Triple.free (some arr)).bind ?_
          rintro - _ rfl
          refine .pure ⟨rfl, .inl rfl, fun hall => ?_⟩
          cases hcopy.exact_of hall
      | some d =>
          obtain hnull | htext := hcopy.null_or
          · cases hnull
          obtain rfl : d.text = text := Option.some.inj htext
          refine Triple.of_eq ?_ ((ih (dst ++ [d])).weaken ?_)
          · rw [List.map_append, List.sum_append, List.map_singleton, List.sum_singleton]
            abel
          · rintro v own ⟨hown, hv⟩
            refine ⟨hown, ?_⟩
            rwa [List.map_append, List.append_assoc] at hv

theorem triple_voxStrdupStrv (src : Option (List CStr)) :
    Triple 0 (voxStrdupStrv fails src) fun r own =>
      own = strvOwned r ∧ IsCopy fails src (r.map fun v => v.elems.map Str.text) := by
  cases src with
  | none => exact .pure ⟨rfl, .rfl⟩
  | some src =>
      refine Triple.alloc.bind ?_
      rintro p _ ⟨rfl, hfail⟩
      cases p with
      | none => exact .pure ⟨rfl, .null (hfail rfl)⟩
      | some arr => exact Triple.of_eq (zero_add _).symm (triple_strdupElems arr [] src)

theorem triple_voxFreeStrv (arr : Option Strv) : Triple (strvOwned arr) (voxFreeStrv arr) fun _ own => own = 0 := by
  cases arr with
  | none => exact .pure rfl
  | some arr =>
      refine (Triple.each (fun s => triple_derefStr (some s)) arr.elems).bind_frame ?_
      rintro - _ rfl
      exact (Triple.free (some arr.block)).of_eq (zero_add _)

/-! ### The fields of a structure -/

/-- Fields that are NULL own nothing. -/
theorem fieldsOwned_of_null {κ : Type} {fields : List κ} {dst : κ → Option Str}
    (h : ∀ f ∈ fields, dst f = none) : fieldsOwned fields dst = 0 := by
  refine List.sum_eq_zero fun m hm => ?_
  obtain ⟨f, hf, rfl⟩ := List.mem_map.mp hm
  rw [h f hf]
  rfl

section Fields

variable {κ : Type} [DecidableEq κ]

theorem fieldsOwned_update_of_notMem {fields : List κ} {field : κ} {dst : κ → Option Str} {s : Option Str}
    (h : field ∉ fields) : fieldsOwned fields (Function.update dst field s) = fieldsOwned fields dst := by
  refine congrArg List.sum (List.map_congr_left fun f hf => ?_)
  have hne : f ≠ field := fun heq => h (heq ▸ hf)
  rw [Function.update_of_ne hne]

/-- What a deep copy leaves: the fields outside as they were, and in each field a copy of the source's. -/
structure Copied (fails : Nat → Bool) (src : κ → Option CStr) (fields : List κ) (dst dst' : κ → Option Str) :
    Prop where
  outside : ∀ f, f ∉ fields → dst' f = dst f
  copies : ∀ f ∈ fields, IsCopy fails (src f) ((dst' f).map Str.text)

/-- The fields are NULL before, or their strings would be lost. -/
theorem triple_copyFields (src : κ → Option CStr) (fields : List κ) (dst : κ → Option Str) (hnodup : fields.Nodup) :
    Triple 0 (copyFields fails src fields dst) fun dst' own =>
      own = fieldsOwned fields dst' ∧ Copied fails src fields dst dst' := by
  induction fields generalizing dst with
  | nil => exact .pure ⟨rfl, fun _ _ => rfl, fun f hf => by simp at hf⟩
  | cons field fields ih =>
      obtain ⟨hnotMem, hnodup⟩ := List.nodup_cons.mp hnodup
      refine (triple_voxStrdup (src field)).bind ?_
      rintro s _ ⟨rfl, hcopy⟩
      refine Triple.of_eq (zero_add _).symm ?_
      refine (ih (Function.update dst field s) hnodup).frame.weaken ?_
      rintro dst' _ ⟨_, rfl, rfl, hcopied⟩
      have hfield : dst' field = s := by
        rw [hcopied.outside field hnotMem, Function.update_self]
      refine ⟨?_, fun f hf => ?_, fun f hf => ?_⟩
      · rw [fieldsOwned, fieldsOwned, List.map_cons, List.sum_cons, hfield, add_comm]
      · obtain ⟨hne, hf⟩ := not_or.mp (mt List.mem_cons.mpr hf)
        rw [hcopied.outside f hf, Function.update_of_ne hne]
      · rcases List.mem_cons.mp hf with rfl | hf
        · rwa [hfield]
        · exact hcopied.copies f hf

theorem triple_freeFields (fields : List κ) (dst : κ → Option Str) (hnodup : fields.Nodup) :
    Triple (fieldsOwned fields dst) (freeFields fields dst) fun dst' own =>
      own = 0 ∧ ∀ f, dst' f = if f ∈ fields then none else dst f := by
  induction fields generalizing dst with
  | nil => exact .pure ⟨rfl, fun f => by simp⟩
  | cons field fields ih =>
      obtain ⟨hnotMem, hnodup⟩ := List.nodup_cons.mp hnodup
      refine (triple_derefStr (dst field)).bind_frame ?_
      rintro - _ rfl
      refine Triple.of_eq ?_ ((ih (Function.update dst field none) hnodup).weaken ?_)
      · rw [zero_add]
        exact (fieldsOwned_update_of_notMem hnotMem).symm
      · rintro dst' own ⟨rfl, hdst'⟩
        refine ⟨rfl, fun f => ?_⟩
        rw [hdst' f]
        by_cases hf : f ∈ fields
        · rw [if_pos hf, if_pos (List.mem_cons_of_mem _ hf)]
        · by_cases heq : f = field
          · subst heq
            rw [if_neg hf, Function.update_self, if_pos List.mem_cons_self]
          · rw [if_neg hf, Function.update_of_ne heq, if_neg fun hmem => (List.mem_cons.mp hmem).elim heq hf]

end Fields

/-! ### The configuration -/

/-- The pointers of the configuration hold copies of what the app has passed. -/
structure CfgStrings.CopyOf (fails : Nat → Bool) (src : CfgSource) (ctx : CfgStrings) : Prop where
  str : ∀ f, IsCopy fails (src.str f) ((ctx.str f).map Str.text)
  wsExtraHeaders : IsCopy fails src.wsExtraHeaders (ctx.wsExtraHeaders.map fun v => v.elems.map Str.text)

@[simp]
theorem CfgStrings.owned_null : CfgStrings.null.owned = 0 := rfl

theorem CfgStr.mem_fields (f : CfgStr) : f ∈ beforeHeaders ∨ f ∈ afterHeaders := by
  cases f <;> decide

theorem CfgStr.notMem_afterHeaders {f : CfgStr} (h : f ∈ beforeHeaders) : f ∉ afterHeaders := by
  cases f <;> revert h <;> decide

theorem CfgStr.notMem_beforeHeaders {f : CfgStr} (h : f ∈ afterHeaders) : f ∉ beforeHeaders :=
  fun hf => notMem_afterHeaders hf h

theorem AcctStr.mem_all (f : AcctStr) : f ∈ all := by
  cases f <;> decide

theorem triple_voxCfgDeepCopy (src : CfgSource) :
    Triple 0 (voxCfgDeepCopy fails src .null) fun ctx own => own = ctx.owned ∧ ctx.CopyOf fails src := by
  refine (triple_copyFields src.str _ _ (by decide)).bind ?_
  rintro str _ ⟨rfl, hbefore⟩
  refine Triple.of_eq (zero_add _).symm ((triple_voxStrdupStrv src.wsExtraHeaders).bind_frame ?_)
  rintro arr _ ⟨rfl, harr⟩
  refine Triple.of_eq (zero_add _).symm ((triple_copyFields src.str _ str (by decide)).bind_frame ?_)
  rintro str' _ ⟨rfl, hafter⟩
  have hkept : ∀ f ∈ CfgStr.beforeHeaders, str' f = str f := fun f hf =>
    hafter.outside f (CfgStr.notMem_afterHeaders hf)
  refine .pure ⟨?_, ⟨fun f => ?_, harr⟩⟩
  · have heq : fieldsOwned CfgStr.beforeHeaders str' = fieldsOwned CfgStr.beforeHeaders str :=
      congrArg List.sum (List.map_congr_left fun f hf => by rw [hkept f hf])
    simp only [CfgStrings.owned, heq]
    abel
  · rcases CfgStr.mem_fields f with hf | hf
    · change IsCopy fails (src.str f) ((str' f).map Str.text)
      rw [hkept f hf]
      exact hbefore.copies f hf
    · exact hafter.copies f hf

theorem triple_voxCfgDeepFree (ctx : CfgStrings) :
    Triple ctx.owned (voxCfgDeepFree ctx) fun ctx' own => own = 0 ∧ ctx' = .null := by
  refine Triple.of_eq (add_assoc _ _ _) ((triple_freeFields _ ctx.str (by decide)).bind_frame ?_)
  rintro str _ ⟨rfl, hstr⟩
  refine Triple.of_eq (zero_add _) ((triple_voxFreeStrv ctx.wsExtraHeaders).bind_frame ?_)
  rintro - _ rfl
  have hafter : fieldsOwned CfgStr.afterHeaders ctx.str = fieldsOwned CfgStr.afterHeaders str :=
    congrArg List.sum (List.map_congr_left fun f hf => by rw [hstr f, if_neg (CfgStr.notMem_beforeHeaders hf)])
  refine Triple.of_eq ((zero_add _).trans hafter) ((triple_freeFields _ str (by decide)).bind ?_)
  rintro str' _ ⟨rfl, hstr'⟩
  refine .pure ⟨rfl, ?_⟩
  have hnull : str' = fun _ => none := by
    funext f
    rcases CfgStr.mem_fields f with hf | hf
    · rw [hstr' f, if_neg (CfgStr.notMem_afterHeaders hf), hstr f, if_pos hf]
    · rw [hstr' f, if_pos hf]
  rw [hnull]
  rfl

/-! ### Custom headers -/

/-- The name and the value of a header. -/
def CustomHdr.texts (h : CustomHdr) : CStr × CStr := (h.name.text, h.value.text)

theorem triple_customHdrNew (name value : CStr) :
    Triple 0 (customHdrNew fails name value) fun r own =>
      own = (r.toList.map CustomHdr.owned).sum ∧ IsCopy fails (some (name, value)) (r.map CustomHdr.texts) := by
  refine Triple.alloc.bind ?_
  rintro p _ ⟨rfl, hfail⟩
  cases p with
  | none => exact .pure ⟨rfl, .null (hfail rfl)⟩
  | some node =>
      refine Triple.of_eq (zero_add _).symm ((triple_voxStrdup (some name)).bind_frame ?_)
      rintro n _ ⟨rfl, hn⟩
      refine Triple.of_eq (zero_add _).symm ((triple_voxStrdup (some value)).bind_frame ?_)
      rintro v _ ⟨rfl, hv⟩
      have hdropped (hnull : n = none ∨ v = none) : Triple (strOwned v + (strOwned n + owned (some node)))
          (do derefStr n; derefStr v; Prog.free (some node); Pure.pure (none : Option CustomHdr)) fun r own =>
          own = (r.toList.map CustomHdr.owned).sum ∧ IsCopy fails (some (name, value)) (r.map CustomHdr.texts) := by
        refine Triple.of_eq (add_left_comm _ _ _) ((triple_derefStr n).bind_frame ?_)
        rintro - _ rfl
        refine Triple.of_eq (zero_add _) ((triple_derefStr v).bind_frame ?_)
        rintro - _ rfl
        refine Triple.of_eq (zero_add _) ((Triple.free (some node)).bind ?_)
        rintro - _ rfl
        refine .pure ⟨rfl, .inl rfl, fun hall => ?_⟩
        rcases hnull with rfl | rfl
        · cases hn.exact_of hall
        · cases hv.exact_of hall
      cases n with
      | none => exact hdropped (.inl rfl)
      | some n =>
          cases v with
          | none => exact hdropped (.inr rfl)
          | some v =>
              obtain hnull | hname := hn.null_or
              · cases hnull
              obtain hnull | hvalue := hv.null_or
              · cases hnull
              refine .pure ⟨?_, ?_⟩
              · simp only [Option.toList_some, List.map_singleton, List.sum_singleton, CustomHdr.owned, owned_some]
                abel
              · rw [← Option.some.inj hname, ← Option.some.inj hvalue]
                exact .rfl

theorem triple_derefHdr (h : CustomHdr) : Triple h.owned (derefHdr h) fun _ own => own = 0 := by
  refine Triple.of_eq (add_assoc _ _ _) ((triple_derefStr (some h.name)).bind_frame ?_)
  rintro - _ rfl
  refine Triple.of_eq (zero_add _) ((triple_derefStr (some h.value)).bind_frame ?_)
  rintro - _ rfl
  exact (Triple.free (some h.node)).of_eq (zero_add _)

/-- The headers in a list are those of the source in their order; one is missing only if an allocation has failed. -/
structure CustomHdr.CopiesOf (fails : Nat → Bool) (src : List (CStr × CStr)) (hs : List CustomHdr) : Prop where
  sublist : (hs.map CustomHdr.texts).Sublist src
  exact_of : (∀ n, fails n = false) → hs.map CustomHdr.texts = src

theorem CustomHdr.CopiesOf.append {src src' : List (CStr × CStr)} {hs hs' : List CustomHdr} (h : CopiesOf fails src hs)
    (h' : CopiesOf fails src' hs') : CopiesOf fails (src ++ src') (hs ++ hs') := by
  refine ⟨?_, fun hall => ?_⟩
  · rw [List.map_append]
    exact h.sublist.append h'.sublist
  · rw [List.map_append, h.exact_of hall, h'.exact_of hall]

theorem CustomHdr.CopiesOf.trans {src : List (CStr × CStr)} {hs hs' : List CustomHdr} (h : CopiesOf fails src hs)
    (h' : CopiesOf fails (hs.map texts) hs') : CopiesOf fails src hs' :=
  ⟨h'.sublist.trans h.sublist, fun hall => (h'.exact_of hall).trans (h.exact_of hall)⟩

theorem CustomHdr.CopiesOf.mono {bad : Nat → Bool} {src : List (CStr × CStr)} {hs : List CustomHdr}
    (h : CopiesOf fails src hs) (hbad : ∀ n, bad n = false → fails n = false) : CopiesOf bad src hs :=
  ⟨h.sublist, fun hall => h.exact_of fun n => hbad n (hall n)⟩

theorem CustomHdr.copiesOf_toList {texts : CStr × CStr} {r : Option CustomHdr}
    (h : IsCopy fails (some texts) (r.map CustomHdr.texts)) : CopiesOf fails [texts] r.toList := by
  cases r with
  | none => exact ⟨List.nil_sublist _, fun hall => nomatch h.exact_of hall⟩
  | some ch =>
      obtain hnull | heq := h.null_or
      · cases hnull
      obtain rfl : ch.texts = texts := Option.some.inj heq
      exact ⟨List.Sublist.refl _, fun _ => rfl⟩

/-- What may keep a header off a list: an allocation that fails, or a block that reads as linked. -/
def missing (fails linked : Nat → Bool) (n : Nat) : Bool := fails n || linked n

theorem fails_of_missing {n : Nat} (h : missing fails linked n = false) : fails n = false :=
  (Bool.or_eq_false_iff.mp h).1

theorem linked_of_missing {n : Nat} (h : missing fails linked n = false) : linked n = false :=
  (Bool.or_eq_false_iff.mp h).2

/-- A header that is made is on the list, or lost. -/
structure Appends (fails linked : Nat → Bool) (src : List (CStr × CStr)) (texts : CStr × CStr)
    (ch : Option CustomHdr) (hdrs hdrs' stray : List CustomHdr) : Prop where
  owned : (hdrs'.map CustomHdr.owned).sum + (stray.map CustomHdr.owned).sum =
    (ch.toList.map CustomHdr.owned).sum + (hdrs.map CustomHdr.owned).sum
  copies : CustomHdr.CopiesOf (missing fails linked) (src ++ [texts]) hdrs'
  stray : (∀ n, linked n = false) → stray = []

theorem appends_appendHdr {src : List (CStr × CStr)} {texts : CStr × CStr} {ch : Option CustomHdr}
    {hdrs : List CustomHdr} (hcopy : IsCopy fails (some texts) (ch.map CustomHdr.texts))
    (hhdrs : CustomHdr.CopiesOf (missing fails linked) src hdrs) :
    Appends fails linked src texts ch hdrs (appendHdr linked ch hdrs).1 (appendHdr linked ch hdrs).2 := by
  have hnew : CustomHdr.CopiesOf (missing fails linked) [texts] ch.toList :=
    (CustomHdr.copiesOf_toList hcopy).mono fun _ => fails_of_missing
  cases ch with
  | none =>
      refine ⟨by simp [appendHdr], ?_, fun _ => rfl⟩
      simpa [appendHdr] using hhdrs.append hnew
  | some ch =>
      cases hlinked : linked ch.node with
      | true =>
          refine ⟨?_, ⟨?_, fun hall => ?_⟩, fun hfree => ?_⟩
          · simp [appendHdr, hlinked, add_comm]
          · simp only [appendHdr, hlinked, if_true]
            exact hhdrs.sublist.trans (List.sublist_append_left src [texts])
          · exact absurd hlinked (by simp [linked_of_missing (hall ch.node)])
          · exact absurd hlinked (by simp [hfree ch.node])
      | false =>
          refine ⟨?_, ?_, fun _ => by simp [appendHdr, hlinked]⟩
          · simp [appendHdr, hlinked, add_comm]
          · simpa [appendHdr, hlinked] using hhdrs.append hnew

theorem triple_inheritHdrs (hs : List CustomHdr) :
    Triple 0 (inheritHdrs fails hs) fun r own =>
      own = (r.map CustomHdr.owned).sum ∧ CustomHdr.CopiesOf fails (hs.map CustomHdr.texts) r := by
  induction hs with
  | nil => exact .pure ⟨rfl, .slnil, fun _ => rfl⟩
  | cons h hs ih =>
      refine (triple_customHdrNew _ _).bind ?_
      rintro ch _ ⟨rfl, hcopy⟩
      refine Triple.of_eq (zero_add _).symm (ih.bind_frame ?_)
      rintro rest _ ⟨rfl, hrest⟩
      refine .pure ⟨?_, (CustomHdr.copiesOf_toList hcopy).append hrest⟩
      rw [List.map_append, List.sum_append, add_comm]

/-! ### Accounts and calls -/

theorem triple_derefAccount (a : AcctMem) : Triple a.owned (derefAccount a) fun _ own => own = 0 := by
  refine Triple.of_eq (add_assoc _ _ _) ((Triple.each triple_derefHdr a.customHdrs).bind_frame ?_)
  rintro - _ rfl
  refine Triple.of_eq (zero_add _) ((triple_freeFields _ a.str (by decide)).bind_frame ?_)
  rintro - _ ⟨rfl, -⟩
  exact (Triple.free (some a.node)).of_eq (zero_add _)

/-- What the app has asked for on an account. -/
structure AcctAsked where
  str : AcctStr → Option CStr
  hdrs : List (CStr × CStr)

/-- The account holds copies of what was asked for. -/
structure AcctMem.CopyOf (fails linked : Nat → Bool) (asked : AcctAsked) (a : AcctMem) : Prop where
  str : ∀ f, IsCopy fails (asked.str f) ((a.str f).map Str.text)
  hdrs : CustomHdr.CopiesOf (missing fails linked) asked.hdrs a.customHdrs

theorem triple_createAcct (linked : Nat → Bool) (id : Nat) (src : AcctStr → Option CStr) (uaAllocs : Bool) :
    Triple 0 (createAcct fails id src uaAllocs) fun r own =>
      own = (r.toList.map AcctMem.owned).sum ∧
        ∀ a, r = some a → a.id = id ∧ a.CopyOf fails linked { str := src, hdrs := [] } := by
  refine Triple.alloc.bind ?_
  rintro p _ ⟨rfl, -⟩
  cases p with
  | none => exact .pure ⟨rfl, fun a ha => by cases ha⟩
  | some node =>
      refine Triple.of_eq (zero_add _).symm
        ((triple_copyFields src AcctStr.all (fun _ => none) (by decide)).bind_frame ?_)
      rintro str _ ⟨rfl, hcopied⟩
      have hown : fieldsOwned AcctStr.all str + owned (some node) =
          AcctMem.owned { id, node, str, customHdrs := [] } := by
        rw [AcctMem.owned, List.map_nil, List.sum_nil, zero_add, owned_some]
      rw [hown]
      dsimp only
      split_ifs
      · refine (triple_derefAccount _).bind ?_
        rintro - _ rfl
        exact .pure ⟨rfl, fun a ha => by cases ha⟩
      · refine .pure ⟨by simp, ?_⟩
        rintro a ha
        cases ha
        exact ⟨rfl, fun f => hcopied.copies f (AcctStr.mem_all f), .slnil, fun _ => rfl⟩

theorem triple_wrapCall (id : Nat) (hdrs : List CustomHdr) :
    Triple 0 (wrapCall fails id hdrs) fun r own =>
      own = (r.toList.map CallMem.owned).sum ∧
        ∀ c, r = some c → c.id = id ∧ CustomHdr.CopiesOf fails (hdrs.map CustomHdr.texts) c.customHdrs := by
  refine Triple.alloc.bind ?_
  rintro p _ ⟨rfl, -⟩
  cases p with
  | none => exact .pure ⟨rfl, fun c hc => by cases hc⟩
  | some node =>
      refine Triple.of_eq (zero_add _).symm ((triple_inheritHdrs hdrs).bind_frame ?_)
      rintro customHdrs _ ⟨rfl, hcopies⟩
      refine .pure ⟨by simp [CallMem.owned], ?_⟩
      rintro c hc
      cases hc
      exact ⟨rfl, hcopies⟩

theorem triple_derefCall (c : CallMem) : Triple c.owned (derefCall c) fun _ own => own = 0 := by
  refine (Triple.each triple_derefHdr c.customHdrs).bind_frame ?_
  rintro - _ rfl
  exact (Triple.free (some c.node)).of_eq (zero_add _)

/-! ### What was asked for -/

/-- What the app has asked for: the configuration, the accounts by id, and the headers of each call. -/
structure Asked where
  cfg : CfgSource
  accts : Nat → AcctAsked
  calls : Nat → List (CStr × CStr)

namespace Asked

def onAcct (asked : Asked) (id : Nat) (f : AcctAsked → AcctAsked) : Asked :=
  { asked with accts := Function.update asked.accts id (f (asked.accts id)) }

def onCall (asked : Asked) (id : Nat) (f : List (CStr × CStr) → List (CStr × CStr)) : Asked :=
  { asked with calls := Function.update asked.calls id (f (asked.calls id)) }

variable {asked : Asked} {id i : Nat}

@[simp]
theorem accts_onAcct_self {f : AcctAsked → AcctAsked} : (asked.onAcct id f).accts id = f (asked.accts id) :=
  Function.update_self ..

theorem accts_onAcct_of_ne {f : AcctAsked → AcctAsked} (h : i ≠ id) : (asked.onAcct id f).accts i = asked.accts i :=
  Function.update_of_ne h ..

@[simp]
theorem calls_onCall_self {f : List (CStr × CStr) → List (CStr × CStr)} :
    (asked.onCall id f).calls id = f (asked.calls id) :=
  Function.update_self ..

theorem calls_onCall_of_ne {f : List (CStr × CStr) → List (CStr × CStr)} (h : i ≠ id) :
    (asked.onCall id f).calls i = asked.calls i :=
  Function.update_of_ne h ..

/-- What an action adds. A call that inherits asks for what was asked for on its account. -/
def next (s : Strings) (act : StringsAct) (asked : Asked) : Asked :=
  match act with
  | .init src _ => { asked with cfg := src }
  | .createAccount id src _ => asked.onAcct id fun _ => { str := src, hdrs := [] }
  | .addHeader acct name value true => asked.onAcct acct fun a => { a with hdrs := a.hdrs ++ [(name, value)] }
  | .setPushToken acct token => asked.onAcct acct fun a => { a with str := Function.update a.str .pushToken token }
  | .wrapCall id acct inherit =>
      asked.onCall id fun _ => if inherit && s.accounts.any (Strings.isAcct acct) then (asked.accts acct).hdrs else []
  | .addCallHeader call name value =>
      if (s.calls.find? (Strings.isCall call)).any CallMem.registered then
        asked.onCall call fun hdrs => hdrs ++ [(name, value)]
      else asked
  | _ => asked

end Asked

namespace Strings

/-- While the SDK is down it holds no copies but those of calls that still wait for their end; what it holds are copies
of what was asked for. -/
structure Keeps (fails linked : Nat → Bool) (asked : Asked) (s : Strings) : Prop where
  down : s.initialized = false → s.ctx = .null ∧ s.accounts = []
  ctx : s.initialized = true → s.ctx.CopyOf fails asked.cfg
  accounts : ∀ a ∈ s.accounts, a.CopyOf fails linked (asked.accts a.id)
  calls : ∀ c ∈ s.calls, CustomHdr.CopiesOf (missing fails linked) (asked.calls c.id) c.customHdrs
  stray : (∀ n, linked n = false) → s.stray = []
  acctIds : (s.accounts.map AcctMem.id).Nodup
  callIds : (s.calls.map CallMem.id).Nodup

variable {s : Strings} {asked : Asked}

theorem mem_of_find_isAcct {id : Nat} {a : AcctMem} (h : s.accounts.find? (isAcct id) = some a) :
    a ∈ s.accounts ∧ a.id = id := by
  have htest : isAcct id a = true := List.find?_some h
  exact ⟨List.mem_of_find?_eq_some h, of_decide_eq_true htest⟩

theorem mem_of_find_isCall {id : Nat} {c : CallMem} (h : s.calls.find? (isCall id) = some c) :
    c ∈ s.calls ∧ c.id = id := by
  have htest : isCall id c = true := List.find?_some h
  exact ⟨List.mem_of_find?_eq_some h, of_decide_eq_true htest⟩

/-- An account that is not there is not asked anything. -/
theorem Keeps.onAcct_of_none {id : Nat} {f : AcctAsked → AcctAsked} (hs : s.Keeps fails linked asked)
    (h : s.accounts.find? (isAcct id) = none) : s.Keeps fails linked (asked.onAcct id f) := by
  refine { hs with accounts := fun a ha => ?_ }
  have hne : a.id ≠ id := fun heq => by simpa [isAcct, heq] using List.find?_eq_none.mp h a ha
  rw [Asked.accts_onAcct_of_ne hne]
  exact hs.accounts a ha

theorem Keeps.onCall_of_none {id : Nat} {f : List (CStr × CStr) → List (CStr × CStr)} (hs : s.Keeps fails linked asked)
    (h : s.calls.find? (isCall id) = none) : s.Keeps fails linked (asked.onCall id f) := by
  refine { hs with calls := fun c hc => ?_ }
  have hne : c.id ≠ id := fun heq => by simpa [isCall, heq] using List.find?_eq_none.mp h c hc
  rw [Asked.calls_onCall_of_ne hne]
  exact hs.calls c hc

theorem triple_onAccount {id : Nat} {fn : AcctMem → Prog (AcctMem × List CustomHdr)} {f : AcctAsked → AcctAsked}
    (hs : s.Keeps fails linked asked)
    (hfn : ∀ a asked, a.CopyOf fails linked asked →
      Triple a.owned (fn a) fun r own => own = r.1.owned + (r.2.map CustomHdr.owned).sum ∧ r.1.id = a.id ∧
        r.1.CopyOf fails linked (f asked) ∧ ((∀ n, linked n = false) → r.2 = [])) :
    Triple s.owned (s.onAccount id fn) fun s' own => own = s'.owned ∧ s'.Keeps fails linked (asked.onAcct id f) := by
  unfold onAccount
  split
  · rename_i hfind
    exact .pure ⟨rfl, hs.onAcct_of_none hfind⟩
  · rename_i a hfind
    obtain ⟨rest, hall, -, hupdate⟩ := exists_rest_of_find AcctMem.owned hfind
    obtain ⟨hmem, hid⟩ := mem_of_find_isAcct hfind
    have hown : s.owned = a.owned + (s.ctx.owned + rest + (s.calls.map CallMem.owned).sum + s.lost) := by
      rw [owned, held, hall]
      abel
    refine Triple.of_eq hown ((hfn a _ (hs.accounts a hmem)).bind_frame ?_)
    rintro ⟨a', stray⟩ _ ⟨rfl, hid', hcopy, hstray⟩
    refine .pure ⟨?_, { hs with down := fun hdown => ?_, accounts := ?_, stray := fun hfree => ?_, acctIds := ?_ }⟩
    · rw [owned_eq, hupdate a', List.map_append, List.sum_append, lost]
      abel
    · rw [(hs.down hdown).2] at hmem
      cases hmem
    · refine forall_updateFirst hs.acctIds hs.accounts (fun x hx h => ?_) ?_
      · rwa [Asked.accts_onAcct_of_ne hx]
      · rwa [hid', hid, Asked.accts_onAcct_self, ← hid]
    · show s.stray ++ stray = []
      rw [hs.stray hfree, List.nil_append]
      exact hstray hfree
    · exact (map_key_updateFirst (hid'.trans hid)).symm ▸ hs.acctIds

/-- A function of a call that is found is run on it, whatever it makes of it. -/
theorem triple_onCall {id : Nat} {fn : CallMem → Prog (CallMem × List CustomHdr)}
    {f : List (CStr × CStr) → List (CStr × CStr)} (hs : s.Keeps fails linked asked)
    (hfn : ∀ c, s.calls.find? (isCall id) = some c → ∀ hdrs,
      CustomHdr.CopiesOf (missing fails linked) hdrs c.customHdrs →
      Triple c.owned (fn c) fun r own => own = r.1.owned + (r.2.map CustomHdr.owned).sum ∧ r.1.id = c.id ∧
        CustomHdr.CopiesOf (missing fails linked) (f hdrs) r.1.customHdrs ∧
          ((∀ n, linked n = false) → r.2 = [])) :
    Triple s.owned (s.onCall id fn) fun s' own => own = s'.owned ∧ s'.Keeps fails linked (asked.onCall id f) := by
  unfold onCall
  split
  · rename_i hfind
    exact .pure ⟨rfl, hs.onCall_of_none hfind⟩
  · rename_i c hfind
    obtain ⟨rest, hall, -, hupdate⟩ := exists_rest_of_find CallMem.owned hfind
    obtain ⟨hmem, hid⟩ := mem_of_find_isCall hfind
    have hown : s.owned = c.owned + (s.ctx.owned + (s.accounts.map AcctMem.owned).sum + rest + s.lost) := by
      rw [owned, held, hall]
      abel
    refine Triple.of_eq hown ((hfn c hfind _ (hs.calls c hmem)).bind_frame ?_)
    rintro ⟨c', stray⟩ _ ⟨rfl, hid', hcopies, hstray⟩
    refine .pure ⟨?_, { hs with calls := ?_, stray := fun hfree => ?_, callIds := ?_ }⟩
    · rw [owned_eq, hupdate c', List.map_append, List.sum_append, lost]
      abel
    · refine forall_updateFirst hs.callIds hs.calls (fun x hx h => ?_) ?_
      · rwa [Asked.calls_onCall_of_ne hx]
      · rwa [hid', hid, Asked.calls_onCall_self, ← hid]
    · show s.stray ++ stray = []
      rw [hs.stray hfree, List.nil_append]
      exact hstray hfree
    · exact (map_key_updateFirst (hid'.trans hid)).symm ▸ hs.callIds

/-! ### Steps -/

theorem triple_addHdrFn (name value : CStr) (a : AcctMem) (asked : AcctAsked) (ha : a.CopyOf fails linked asked) :
    Triple a.owned (addHdrFn fails linked name value a) fun r own =>
      own = r.1.owned + (r.2.map CustomHdr.owned).sum ∧ r.1.id = a.id ∧
        r.1.CopyOf fails linked { asked with hdrs := asked.hdrs ++ [(name, value)] } ∧
          ((∀ n, linked n = false) → r.2 = []) := by
  refine Triple.of_eq (zero_add _).symm ((triple_customHdrNew name value).bind_frame ?_)
  rintro ch _ ⟨rfl, hcopy⟩
  have happends := appends_appendHdr hcopy ha.hdrs
  refine .pure ⟨?_, rfl, ⟨ha.str, happends.copies⟩, happends.stray⟩
  calc (ch.toList.map CustomHdr.owned).sum + a.owned
      = (ch.toList.map CustomHdr.owned).sum + (a.customHdrs.map CustomHdr.owned).sum +
          (fieldsOwned AcctStr.all a.str + {a.node}) := by
        rw [AcctMem.owned]
        abel
    _ = ((appendHdr linked ch a.customHdrs).1.map CustomHdr.owned).sum + fieldsOwned AcctStr.all a.str + {a.node} +
          ((appendHdr linked ch a.customHdrs).2.map CustomHdr.owned).sum := by
        rw [← happends.owned]
        abel

theorem triple_addCallHdrFn (name value : CStr) (c : CallMem) (hdrs : List (CStr × CStr))
    (hregistered : c.registered = true) (hc : CustomHdr.CopiesOf (missing fails linked) hdrs c.customHdrs) :
    Triple c.owned (addCallHdrFn fails linked name value c) fun r own =>
      own = r.1.owned + (r.2.map CustomHdr.owned).sum ∧ r.1.id = c.id ∧
        CustomHdr.CopiesOf (missing fails linked) (hdrs ++ [(name, value)]) r.1.customHdrs ∧
          ((∀ n, linked n = false) → r.2 = []) := by
  unfold addCallHdrFn
  rw [hregistered]
  refine Triple.of_eq (zero_add _).symm ((triple_customHdrNew name value).bind_frame ?_)
  rintro ch _ ⟨rfl, hcopy⟩
  have happends := appends_appendHdr hcopy hc
  refine .pure ⟨?_, rfl, happends.copies, happends.stray⟩
  calc (ch.toList.map CustomHdr.owned).sum + c.owned
      = (ch.toList.map CustomHdr.owned).sum + (c.customHdrs.map CustomHdr.owned).sum + {c.node} := by
        rw [CallMem.owned]
        abel
    _ = ((appendHdr linked ch c.customHdrs).1.map CustomHdr.owned).sum + {c.node} +
          ((appendHdr linked ch c.customHdrs).2.map CustomHdr.owned).sum := by
        rw [← happends.owned]
        abel

/-- The other strings of an account stay when its token is replaced. -/
theorem fieldsOwned_pushToken (str : AcctStr → Option Str) (token : Option Str) :
    ∃ rest, fieldsOwned AcctStr.all str = strOwned (str .pushToken) + rest ∧
      fieldsOwned AcctStr.all (Function.update str .pushToken token) = strOwned token + rest := by
  refine ⟨fieldsOwned (AcctStr.all.erase .pushToken) str, ?_, ?_⟩
  · exact (List.sum_map_erase (fun f => strOwned (str f)) (AcctStr.mem_all .pushToken)).symm
  · have hrest : fieldsOwned (AcctStr.all.erase .pushToken) (Function.update str .pushToken token) =
        fieldsOwned (AcctStr.all.erase .pushToken) str := fieldsOwned_update_of_notMem (by decide)
    have htoken := List.sum_map_erase (fun f => strOwned (Function.update str .pushToken token f))
      (AcctStr.mem_all .pushToken)
    rw [Function.update_self] at htoken
    rw [← hrest]
    exact htoken.symm

theorem triple_setPushTokenFn (token : Option CStr) (a : AcctMem) (asked : AcctAsked)
    (ha : a.CopyOf fails linked asked) :
    Triple a.owned (setPushTokenFn fails token a) fun r own =>
      own = r.1.owned + (r.2.map CustomHdr.owned).sum ∧ r.1.id = a.id ∧
        r.1.CopyOf fails linked { asked with str := Function.update asked.str .pushToken token } ∧
          ((∀ n, linked n = false) → r.2 = []) := by
  obtain ⟨rest, hrest, -⟩ := fieldsOwned_pushToken a.str none
  have hown : a.owned = strOwned (a.str .pushToken) + ((a.customHdrs.map CustomHdr.owned).sum + rest + {a.node}) := by
    rw [AcctMem.owned, hrest]
    abel
  refine Triple.of_eq hown ((triple_derefStr _).bind_frame ?_)
  rintro - _ rfl
  refine (triple_voxStrdup token).bind_frame ?_
  rintro t _ ⟨rfl, hcopy⟩
  obtain ⟨rest', hrest', ht⟩ := fieldsOwned_pushToken a.str t
  obtain rfl : rest = rest' := add_left_cancel (hrest.symm.trans hrest')
  refine .pure ⟨?_, rfl, ⟨fun f => ?_, ha.hdrs⟩, fun _ => rfl⟩
  · rw [AcctMem.owned, ht, List.map_nil, List.sum_nil]
    abel
  · by_cases hf : f = .pushToken
    · subst hf
      simpa only [Function.update_self] using hcopy
    · simpa only [Function.update_of_ne hf] using ha.str f

theorem triple_start (src : CfgSource) (comesUp : Bool) (hs : s.Keeps fails linked asked)
    (hdown : s.initialized = false) :
    Triple s.owned (s.start fails src comesUp) fun s' own =>
      own = s'.owned ∧ s'.Keeps fails linked { asked with cfg := src } := by
  obtain ⟨hctx, haccounts⟩ := hs.down hdown
  unfold start
  rw [hctx]
  refine Triple.of_eq (zero_add _).symm ((triple_voxCfgDeepCopy src).bind_frame ?_)
  rintro ctx _ ⟨rfl, hcopy⟩
  split
  · refine .pure ⟨?_, { hs with down := (nomatch ·), ctx := fun _ => hcopy }⟩
    rw [owned_eq, owned_eq, hctx, CfgStrings.owned_null]
    abel
  · refine (triple_voxCfgDeepFree ctx).bind_frame ?_
    rintro _ _ ⟨rfl, rfl⟩
    refine .pure ⟨?_, { hs with down := fun _ => ⟨rfl, haccounts⟩, ctx := fun h => ?_ }⟩
    · rw [owned_eq, owned_eq, hctx]
      abel
    · exact absurd h (by simp [hdown])

theorem triple_dropAccount (a : AcctMem) : Triple a.owned (dropAccount a) fun _ own => own = 0 := by
  have hown : a.owned = fieldsOwned AcctStr.all a.str + ((a.customHdrs.map CustomHdr.owned).sum + {a.node}) := by
    rw [AcctMem.owned]
    abel
  refine Triple.of_eq hown ((triple_freeFields _ a.str (by decide)).bind_frame ?_)
  rintro str _ ⟨rfl, hstr⟩
  refine Triple.of_eq ?_ (triple_derefAccount _)
  have hnull : fieldsOwned AcctStr.all str = 0 := fieldsOwned_of_null fun f hf => by rw [hstr f, if_pos hf]
  rw [AcctMem.owned, hnull]
  abel

/-- The calls that are reset and those that are left are all there are. -/
theorem sum_owned_filter (closes : Nat → Bool) (calls : List CallMem) :
    (calls.map CallMem.owned).sum =
      ((calls.filter (isReset closes)).map CallMem.owned).sum +
        (((calls.filter fun c => !isReset closes c).map fun c => { c with registered := false }).map
          CallMem.owned).sum := by
  induction calls with
  | nil => rfl
  | cons c calls ih =>
      rw [List.map_cons, List.sum_cons, ih]
      cases hreset : isReset closes c with
      | true =>
          rw [List.filter_cons_of_pos hreset, List.filter_cons_of_neg (by simp [hreset]), List.map_cons, List.sum_cons,
            add_assoc]
      | false =>
          rw [List.filter_cons_of_neg (by simp [hreset]), List.filter_cons_of_pos (by simp [hreset])]
          simp only [List.map_cons, List.sum_cons, CallMem.owned]
          abel

theorem triple_stop (closes : Nat → Bool) (hs : s.Keeps fails linked asked) :
    Triple s.owned (s.stop closes) fun s' own => own = s'.owned ∧ s'.Keeps fails linked asked := by
  have hown : s.owned =
      (s.accounts.map AcctMem.owned).sum + (s.ctx.owned + ((s.calls.map CallMem.owned).sum + s.lost)) := by
    rw [owned_eq, lost]
    abel
  refine Triple.of_eq hown ((Triple.each triple_dropAccount s.accounts).bind_frame ?_)
  rintro - _ rfl
  refine Triple.of_eq (zero_add _) ((triple_voxCfgDeepFree s.ctx).bind_frame ?_)
  rintro ctx _ ⟨rfl, rfl⟩
  rw [zero_add, sum_owned_filter closes s.calls, add_assoc]
  refine (Triple.each triple_derefCall _).bind_frame ?_
  rintro - _ rfl
  refine .pure ⟨by simp [owned, held, lost], fun _ => ⟨rfl, rfl⟩, (nomatch ·), fun a ha => (nomatch ha), ?_, hs.stray,
    .nil, ?_⟩
  · intro c hc
    obtain ⟨c', hc', rfl⟩ := List.mem_map.mp hc
    exact hs.calls c' (List.mem_of_mem_filter hc')
  · rw [List.map_map]
    exact hs.callIds.sublist (List.filter_sublist.map CallMem.id)

theorem triple_createAccount (id : Nat) (src : AcctStr → Option CStr) (uaAllocs : Bool)
    (hs : s.Keeps fails linked asked) (hup : s.initialized = true) (hnew : s.accounts.any (isAcct id) = false) :
    Triple s.owned (s.handle fails linked (.createAccount id src uaAllocs)) fun s' own =>
      own = s'.owned ∧ s'.Keeps fails linked (asked.onAcct id fun _ => { str := src, hdrs := [] }) := by
  refine Triple.of_eq (zero_add _).symm ((triple_createAcct linked id src uaAllocs).bind_frame ?_)
  rintro acct _ ⟨rfl, hacct⟩
  have hfind : s.accounts.find? (isAcct id) = none :=
    List.find?_eq_none.mpr fun a ha => List.any_eq_false.mp hnew a ha
  have hold := hs.onAcct_of_none (f := fun _ => { str := src, hdrs := [] }) hfind
  refine .pure ⟨?_, { hold with down := fun hdown => ?_, accounts := fun a ha => ?_, acctIds := ?_ }⟩
  · rw [owned_eq, owned_eq, List.map_append, List.sum_append]
    abel
  · exact absurd hdown (by simp [hup])
  · rcases List.mem_append.mp ha with ha | ha
    · exact hold.accounts a ha
    · obtain ⟨hid, hcopy⟩ := hacct a (Option.mem_toList.mp ha)
      rwa [hid, Asked.accts_onAcct_self]
  · exact nodup_map_key_append hs.acctIds hnew fun a ha => (hacct a ha).1

theorem triple_destroyAccount (id : Nat) (hs : s.Keeps fails linked asked) :
    Triple s.owned (s.handle fails linked (.destroyAccount id)) fun s' own =>
      own = s'.owned ∧ s'.Keeps fails linked asked := by
  cases hfind : s.accounts.find? (isAcct id) with
  | none =>
      simp only [handle, hfind]
      exact .pure ⟨rfl, hs⟩
  | some a =>
      obtain ⟨rest, hall, herase, -⟩ := exists_rest_of_find AcctMem.owned hfind
      have hown : s.owned = a.owned + (s.ctx.owned + rest + (s.calls.map CallMem.owned).sum + s.lost) := by
        rw [owned_eq, hall, lost]
        abel
      simp only [handle, hfind]
      refine Triple.of_eq hown ((triple_derefAccount a).bind_frame ?_)
      rintro - _ rfl
      refine .pure ⟨?_, { hs with down := fun hdown => ?_, accounts := fun x hx => ?_, acctIds := ?_ }⟩
      · rw [owned_eq, herase, lost]
        abel
      · rw [(hs.down hdown).2] at hfind
        cases hfind
      · exact hs.accounts x (List.mem_of_mem_eraseP hx)
      · exact hs.acctIds.sublist (List.eraseP_sublist.map AcctMem.id)

theorem triple_wrapNew (id acct : Nat) (inherit : Bool) (hs : s.Keeps fails linked asked)
    (hnew : s.calls.any (isCall id) = false) :
    Triple s.owned (s.handle fails linked (.wrapCall id acct inherit)) fun s' own =>
      own = s'.owned ∧ s'.Keeps fails linked (asked.onCall id fun _ =>
        if inherit && s.accounts.any (isAcct acct) then (asked.accts acct).hdrs else []) := by
  refine Triple.of_eq (zero_add _).symm ((triple_wrapCall id _).bind_frame ?_)
  rintro call _ ⟨rfl, hcall⟩
  have hfind : s.calls.find? (isCall id) = none := List.find?_eq_none.mpr fun c hc => List.any_eq_false.mp hnew c hc
  have hold := hs.onCall_of_none
    (f := fun _ => if inherit && s.accounts.any (isAcct acct) then (asked.accts acct).hdrs else []) hfind
  refine .pure ⟨?_, { hold with calls := fun c hc => ?_, callIds := ?_ }⟩
  · rw [owned_eq, owned_eq, List.map_append, List.sum_append]
    abel
  · rcases List.mem_append.mp hc with hc | hc
    · exact hold.calls c hc
    · obtain ⟨hid, hcopies⟩ := hcall c (Option.mem_toList.mp hc)
      rw [hid, Asked.calls_onCall_self]
      refine CustomHdr.CopiesOf.trans ?_ (hcopies.mono fun _ => fails_of_missing)
      cases inherit with
      | false => exact ⟨.slnil, fun _ => rfl⟩
      | true =>
          cases hacct : s.accounts.find? (isAcct acct) with
          | none =>
              have hany : s.accounts.any (isAcct acct) = false :=
                List.any_eq_false.mpr fun a ha => List.find?_eq_none.mp hacct a ha
              rw [hany]
              exact ⟨.slnil, fun _ => rfl⟩
          | some a =>
              obtain ⟨hmem, hid⟩ := mem_of_find_isAcct hacct
              have hany : s.accounts.any (isAcct acct) = true :=
                List.any_eq_true.mpr ⟨a, hmem, decide_eq_true hid⟩
              rw [hany]
              exact hid ▸ (hs.accounts a hmem).hdrs
  · exact nodup_map_key_append hs.callIds hnew fun c hc => (hcall c hc).1

theorem triple_releaseCall (call : Nat) (hs : s.Keeps fails linked asked) :
    Triple s.owned (s.handle fails linked (.releaseCall call)) fun s' own =>
      own = s'.owned ∧ s'.Keeps fails linked asked := by
  cases hfind : s.calls.find? (isCall call) with
  | none =>
      simp only [handle, hfind]
      exact .pure ⟨rfl, hs⟩
  | some c =>
      obtain ⟨rest, hall, herase, -⟩ := exists_rest_of_find CallMem.owned hfind
      have hown : s.owned = c.owned + (s.ctx.owned + (s.accounts.map AcctMem.owned).sum + rest + s.lost) := by
        rw [owned_eq, hall, lost]
        abel
      simp only [handle, hfind]
      refine Triple.of_eq hown ((triple_derefCall c).bind_frame ?_)
      rintro - _ rfl
      refine .pure ⟨?_, { hs with calls := fun x hx => ?_, callIds := ?_ }⟩
      · rw [owned_eq, herase, lost]
        abel
      · exact hs.calls x (List.mem_of_mem_eraseP hx)
      · exact hs.callIds.sublist (List.eraseP_sublist.map CallMem.id)

/-- A function of a call that leaves its headers alone. -/
theorem triple_onCall_silent {id : Nat} {fn : CallMem → Prog (CallMem × List CustomHdr)}
    (hs : s.Keeps fails linked asked)
    (hfn : ∀ c, s.calls.find? (isCall id) = some c → Triple c.owned (fn c) fun r own =>
      own = r.1.owned + (r.2.map CustomHdr.owned).sum ∧ r.1.id = c.id ∧ r.1.customHdrs = c.customHdrs ∧ r.2 = []) :
    Triple s.owned (s.onCall id fn) fun s' own => own = s'.owned ∧ s'.Keeps fails linked asked := by
  have hsame : asked.onCall id (fun hdrs => hdrs) = asked := by
    rw [Asked.onCall, Function.update_eq_self]
  have hkept : Triple s.owned (s.onCall id fn) fun s' own =>
      own = s'.owned ∧ s'.Keeps fails linked (asked.onCall id fun hdrs => hdrs) := by
    refine triple_onCall hs fun c hfind hdrs hc => (hfn c hfind).weaken ?_
    rintro r own ⟨hown, hid, hhdrs, hstray⟩
    exact ⟨hown, hid, hhdrs ▸ hc, fun _ => hstray⟩
  rwa [hsame] at hkept

/-- A call that baresip has given up takes no more headers. -/
theorem triple_addCallHeader (call : Nat) (name value : CStr) (hs : s.Keeps fails linked asked) :
    Triple s.owned (s.handle fails linked (.addCallHeader call name value)) fun s' own =>
      own = s'.owned ∧ s'.Keeps fails linked (asked.next s (.addCallHeader call name value)) := by
  by_cases hup : (s.calls.find? (isCall call)).any CallMem.registered = true
  · rw [Asked.next, if_pos hup]
    refine triple_onCall hs fun c hfind hdrs hc => triple_addCallHdrFn name value c hdrs ?_ hc
    simpa [hfind] using hup
  · rw [Asked.next, if_neg hup]
    refine triple_onCall_silent hs fun c hfind => ?_
    have hdown : c.registered = false := by simpa [hfind] using hup
    unfold addCallHdrFn
    rw [hdown]
    exact .pure ⟨(add_zero c.owned).symm, rfl, rfl, rfl⟩

/-- Whatever happens, what is owned afterwards is what the pointers hold, and they hold what was asked for. -/
theorem triple_handle (act : StringsAct) (hs : s.Keeps fails linked asked) (hen : s.enabled act = true) :
    Triple s.owned (s.handle fails linked act) fun s' own =>
      own = s'.owned ∧ s'.Keeps fails linked (asked.next s act) := by
  cases act with
  | init src comesUp => exact triple_start src comesUp hs (by simpa [enabled] using hen)
  | shutdown closes => exact triple_stop closes hs
  | createAccount id src uaAllocs =>
      simp only [enabled, Bool.and_eq_true, Bool.not_eq_true'] at hen
      exact triple_createAccount id src uaAllocs hs hen.1 hen.2
  | destroyAccount id => exact triple_destroyAccount id hs
  | addHeader acct name value uaAdds =>
      cases uaAdds with
      | false => exact .pure ⟨rfl, hs⟩
      | true => exact triple_onAccount hs (triple_addHdrFn name value)
  | setPushToken acct token => exact triple_onAccount hs (triple_setPushTokenFn token)
  | wrapCall id acct inherit =>
      simp only [enabled, Bool.and_eq_true, Bool.not_eq_true'] at hen
      exact triple_wrapNew id acct inherit hs hen.2
  | addCallHeader call name value => exact triple_addCallHeader call name value hs
  | callClosed call =>
      refine triple_onCall_silent hs fun c _ => .pure ⟨?_, rfl, rfl, rfl⟩
      exact (add_zero c.owned).symm
  | releaseCall call => exact triple_releaseCall call hs

end Strings

end Copies

/-! ### Every run -/

/-- Every block has one holder or is lost, and the store knows it; what is held are copies of what was asked for. -/
structure HeldByOne (fails linked : Nat → Bool) (p : Strings × Store) (asked : Asked) : Prop where
  keeps : p.1.Keeps fails linked asked
  sound : p.2.Sound
  live : p.2.live = p.1.owned

variable {fails linked : Nat → Bool}

theorem HeldByOne.start (asked : Asked) : HeldByOne fails linked (.atStart, { next := 0, live := 0 }) asked := by
  refine ⟨⟨fun _ => ⟨rfl, rfl⟩, ?_, ?_, ?_, fun _ => rfl, .nil, .nil⟩, ⟨Multiset.nodup_zero, ?_⟩, rfl⟩
  · exact fun h => nomatch h
  · exact fun a ha => nomatch ha
  · exact fun c hc => nomatch hc
  · exact fun p hp => absurd hp (Multiset.notMem_zero p)

/-- No step gets stuck, and each keeps the balance. -/
theorem HeldByOne.step {p p' : Strings × Store} {asked : Asked} {act : StringsAct} {os : List StringsOut}
    (h : HeldByOne fails linked p asked) (hstep : (ownedStrings fails linked).step p act = some (p', os)) :
    os = [] ∧ HeldByOne fails linked p' (asked.next p.1 act) := by
  simp only [ownedStrings] at hstep
  split at hstep
  · rename_i hen
    obtain ⟨s, σ, _, hrun, hsound, hlive, rfl, hkeeps⟩ :=
      Strings.triple_handle act h.keeps hen p.2 0 h.sound (h.live.trans (add_zero _).symm)
    rw [hrun] at hstep
    cases hstep
    exact ⟨rfl, hkeeps, hsound, hlive.trans (add_zero _)⟩
  · cases hstep

/-- **The memory balances.** In every run, whichever allocations fail and whatever memory is handed out, no block is
freed twice, and the blocks that are live are those behind the pointers of the configuration, of the accounts and of
the call wrappers, each behind one of them, and those of the headers that `list_append` has refused. When the SDK is
down and no wrapper waits for its end, only these are left, and there are none if no memory reads as linked. -/
theorem memory_balances {p : Strings × Store} {t : Trace StringsAct StringsOut}
    (hrun : (ownedStrings fails linked).Run Machine.Always p t) :
    t.outs = [] ∧ p.2.live = p.1.held + p.1.lost ∧ p.2.live.Nodup ∧
      (p.1.initialized = false → p.1.calls = [] → p.2.live = p.1.lost) ∧
        ((∀ n, linked n = false) → p.1.lost = 0) := by
  have hinv : t.outs = [] ∧ ∃ asked, HeldByOne fails linked p asked := by
    refine hrun.invariant (I := fun p t => t.outs = [] ∧ ∃ asked, HeldByOne fails linked p asked) ?_ ?_
    · rintro _ rfl
      exact ⟨rfl, ⟨⟨fun _ => none, none⟩, fun _ => ⟨fun _ => none, []⟩, fun _ => []⟩, .start _⟩
    · rintro p t act p' os ⟨houts, asked, h⟩ - hstep
      obtain ⟨rfl, hbal⟩ := h.step hstep
      exact ⟨by rw [Trace.outs_append, houts, Trace.outs_singleton]; rfl, _, hbal⟩
  obtain ⟨houts, asked, h⟩ := hinv
  refine ⟨houts, h.live, h.sound.nodup, fun hdown hcalls => ?_, fun hfree => ?_⟩
  · obtain ⟨hctx, haccounts⟩ := h.keeps.down hdown
    rw [h.live, Strings.owned, Strings.held, hctx, haccounts, hcalls]
    exact zero_add p.1.lost
  · rw [Strings.lost, h.keeps.stray hfree]
    rfl

/-- What was asked for, recorded beside the run. -/
def askedStrings (fails linked : Nat → Bool) (start : Asked) :
    Machine ((Strings × Store) × Asked) StringsAct StringsOut :=
  (ownedStrings fails linked).withHistory start fun p act _ asked => asked.next p.1 act

/-- **The copies are what was asked for.** In every run the strings of the configuration and of each account are those
the app passed last, or NULL where an allocation has failed. The headers of an account are those added to it, in their
order, and those of a call what was asked for on its account when it was made and what was added to it since; one is
missing only if an allocation has failed or a block has read as linked. -/
theorem copies_as_asked {start : Asked} {p : (Strings × Store) × Asked} {t : Trace StringsAct StringsOut}
    (hrun : (askedStrings fails linked start).Run Machine.Always p t) :
    (p.1.1.initialized = true → p.1.1.ctx.CopyOf fails p.2.cfg) ∧
      (∀ a ∈ p.1.1.accounts, a.CopyOf fails linked (p.2.accts a.id)) ∧
      ∀ c ∈ p.1.1.calls, CustomHdr.CopiesOf (missing fails linked) (p.2.calls c.id) c.customHdrs := by
  have hbal : HeldByOne fails linked p.1 p.2 := by
    refine hrun.stateInvariant (I := fun p => HeldByOne fails linked p.1 p.2) ?_ ?_
    · rintro ⟨p, asked⟩ ⟨rfl, rfl⟩
      exact .start asked
    · rintro ⟨p, asked⟩ act ⟨p', asked'⟩ os h - hstep
      obtain ⟨hstep, rfl⟩ := Machine.withHistory_step.mp hstep
      exact (h.step hstep).2
  exact ⟨hbal.keeps.ctx, hbal.keeps.accounts, hbal.keeps.calls⟩

/-- A configuration with a domain and two headers for the handshake. -/
def exampleCfg : CfgSource where
  str := fun f => if f = .sipDomain then some "example.org".toList else none
  wsExtraHeaders := some ["X-Tenant".toList, "7".toList]

/-- An account with an address and a push token. -/
def exampleAcct : AcctStr → Option CStr
  | .uri => some "sip:a@example.org".toList
  | .pushToken => some "t0".toList
  | _ => none

/-- The value of the second header cannot be copied, `list_append` refuses the third, and the call is still up when the
SDK goes down. -/
def exampleActs : List StringsAct :=
  [.init exampleCfg true, .createAccount 1 exampleAcct true, .addHeader 1 "A".toList "1".toList true,
    .addHeader 1 "B".toList "2".toList true, .addHeader 1 "C".toList "3".toList true,
    .addHeader 1 "D".toList "4".toList true, .setPushToken 1 (some "t1".toList), .wrapCall 7 1 true,
    .addCallHeader 7 "E".toList "5".toList, .shutdown fun _ => true]

theorem memory_balances_released :
    ∃ (p : Strings × Store) (t : Trace StringsAct StringsOut),
      (ownedStrings (fun n => decide (n = 12)) fun n => decide (n = 13)).Run Machine.Always p t ∧ t.length = 11 ∧
        t.outs = [] ∧ p.2.live = p.1.lost ∧ p.1.stray.map CustomHdr.node = [13] := by
  obtain ⟨p, t, hrun, hend⟩ := Machine.exists_run_of_exec
    (M := ownedStrings (fun n => decide (n = 12)) fun n => decide (n = 13)) (fun _ _ => true) rfl
    (exampleActs ++ [.releaseCall 7])
    (fun p t => !p.1.initialized && p.1.calls.isEmpty && decide (t.length = 11) &&
      decide (p.1.stray.map CustomHdr.node = [13])) (by decide +kernel)
  simp only [Bool.and_eq_true, Bool.not_eq_true', List.isEmpty_iff, decide_eq_true_eq] at hend
  obtain ⟨⟨⟨hdown, hcalls⟩, hlength⟩, hstray⟩ := hend
  obtain ⟨houts, -, -, hleft, -⟩ := memory_balances hrun.always
  exact ⟨p, t, hrun.always, hlength, houts, hleft hdown hcalls, hstray⟩

/-- Nothing has been asked for. -/
def exampleAsked : Asked where
  cfg := { str := fun _ => none, wsExtraHeaders := none }
  accts := fun _ => { str := fun _ => none, hdrs := [] }
  calls := fun _ => []

theorem copies_as_asked_inherited :
    ∃ (p : (Strings × Store) × Asked) (t : Trace StringsAct StringsOut),
      (askedStrings (fun n => decide (n = 12)) (fun n => decide (n = 13)) exampleAsked).Run Machine.Always p t ∧
        p.1.1.calls.map (fun c => c.customHdrs.map fun h => h.name.text) = [["A".toList, "D".toList, "E".toList]] ∧
        ∀ c ∈ p.1.1.calls, CustomHdr.CopiesOf (missing (fun n => decide (n = 12)) fun n => decide (n = 13))
          (p.2.calls c.id) c.customHdrs := by
  obtain ⟨p, t, hrun, hend⟩ := Machine.exists_run_of_exec
    (M := askedStrings (fun n => decide (n = 12)) (fun n => decide (n = 13)) exampleAsked) (fun _ _ => true)
    (s := ((.atStart, { next := 0, live := 0 }), exampleAsked)) ⟨rfl, rfl⟩ exampleActs
    (fun p _ => decide (p.1.1.calls.map (fun c => c.customHdrs.map fun h => h.name.text) =
      [["A".toList, "D".toList, "E".toList]])) (by decide +kernel)
  exact ⟨p, t, hrun.always, of_decide_eq_true hend, (copies_as_asked hrun.always).2.2⟩

end VoxSdk
