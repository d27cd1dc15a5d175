import VoxSdk.Proof.WrapperOwnership
import VoxSdk.Transfer

/-!
# The target the application approved

The application answers a report; the SDK dials what the wrapper kept. The wrapper keeps the last REFER of the
call and has room for 255 characters of its Refer-To, the report carries 4095 characters of its own.
-/

namespace VoxSdk

open Reactive

namespace Transfers

variable {s s' : Transfers} {id : Nat} {env : AcceptEnv} {act : XferAct} {os : List XferOut} {uri : CStr}

/-- A REFER is waiting for an answer and can be dialled. -/
def outstanding (id : Nat) (env : AcceptEnv) (s : Transfers) : Bool :=
  s.calls.bc id && env.ua && (s.xferPending id && !(s.xferReferTo id).isEmpty)

/-- The wrappers when `call_connect` returns. -/
def connected (env : AcceptEnv) (s : Transfers) : CallWrappers :=
  env.events.foldl (connectEvent s.calls.next) s.calls.wrapNew

/-- What `transfer_accept_fn` can do: return at once, or answer the REFER in one way or another. -/
inductive AcceptStep (id : Nat) (env : AcceptEnv) (s : Transfers) : Transfers → Prop where
  | closed : (s.calls.bc id && env.ua) = false →
      AcceptStep id env s { s with out := s.out ++ [.returned (.errno .noent)] }
  | nothing : (s.calls.bc id && env.ua) = true → s.outstanding id env = false →
      AcceptStep id env s { s with out := s.out ++ [.returned (.sdk .state)] }
  | unallocated (err : Errno) : s.outstanding id env = true → env.alloc = some err →
      AcceptStep id env s
        { s with
          xferPending := Function.update s.xferPending id false
          out := s.out ++ [.notify id 500, .returned (.errno err)] }
  | unwrapped : s.outstanding id env = true → env.alloc = none → env.wrapOk = false →
      AcceptStep id env s
        { s with
          xferPending := Function.update s.xferPending id false
          out := s.out ++ [.allocated id, .notify id 500, .returned (.errno .nomem)] }
  | failed (err : Errno) : s.outstanding id env = true → env.alloc = none → env.wrapOk = true →
      env.connect = some err →
      AcceptStep id env s
        { s with
          calls := dropNew s.calls.next (s.connected env)
          xferPending := Function.update s.xferPending id false
          out := s.out ++ [.allocated id, .connect id (s.xferReferTo id), .notify id 500,
            .returned (.errno err)] }
  | placed : s.outstanding id env = true → env.alloc = none → env.wrapOk = true → env.connect = none →
      AcceptStep id env s
        { s with
          calls := (s.connected env).emit (.touch s.calls.next)
          xferPending := Function.update s.xferPending id false
          out := s.out ++ [.allocated id, .connect id (s.xferReferTo id), .placed id s.calls.next,
            .returned .ok] }

theorem acceptStep (id : Nat) (env : AcceptEnv) (s : Transfers) :
    AcceptStep id env s (s.transferAcceptFn id env) := by
  unfold transferAcceptFn
  cases hopen : s.calls.bc id && env.ua with
  | false => exact .closed hopen
  | true =>
      rw [if_neg (by decide)]
      cases hnone : !s.xferPending id || (s.xferReferTo id).isEmpty with
      | true =>
        rw [if_pos rfl]
        refine .nothing hopen ?_
        rw [outstanding, hopen, Bool.true_and, ← Bool.not_eq_true', Bool.not_and, Bool.not_not, hnone]
      | false =>
        have hwaiting : s.outstanding id env = true := by
          rw [outstanding, hopen, Bool.true_and, ← Bool.not_eq_false', Bool.not_and, Bool.not_not, hnone]
        rw [if_neg (by decide)]
        cases halloc : env.alloc with
        | some err =>
            have hstep := AcceptStep.unallocated err hwaiting halloc
            simpa [emit, clearPending, result] using hstep
        | none =>
            cases hwrap : env.wrapOk with
            | false =>
                have hstep := AcceptStep.unwrapped hwaiting halloc hwrap
                simpa [emit, clearPending, result] using hstep
            | true =>
                unfold connectNew
                cases hconnect : env.connect with
                | some err =>
                    have hstep := AcceptStep.failed err hwaiting halloc hwrap hconnect
                    simpa [emit, clearPending, result, connected] using hstep
                | none =>
                    have hstep := AcceptStep.placed hwaiting halloc hwrap hconnect
                    simpa [emit, clearPending, result, connected] using hstep

theorem AcceptStep.xferReferTo (h : AcceptStep id env s s') : s'.xferReferTo = s.xferReferTo := by
  cases h <;> rfl

/-- What becomes of a REFER: there is no memory to report it, or it is kept and reported, or reported only. -/
inductive ReferStep (bc : Option Nat) (text : Option CStr) (s : Transfers) : Bool → Transfers → Prop where
  | lost : ReferStep bc text s false s
  | kept (asked : List TransferReq) {id : Nat} {txt : CStr} : bc = some id → text = some txt →
      s.calls.listed id = true →
      ReferStep bc text s true
        { s with
          calls := (s.calls.postQev { kind := .other, derefAfterDeliver := none }).2
          xferReferTo := Function.update s.xferReferTo id (strNcpy 256 txt)
          xferPending := Function.update s.xferPending id true
          asked
          out := s.out ++ [.stored id] }
  | noted (asked : List TransferReq) : (text = none ∨ ∀ id, bc = some id → s.calls.listed id = false) →
      ReferStep bc text s true
        { s with calls := (s.calls.postQev { kind := .other, derefAfterDeliver := none }).2, asked }

theorem referStep (bc : Option Nat) (text : Option CStr) (qevOk : Bool) (s : Transfers) :
    ReferStep bc text s qevOk (s.transferHandleEvent bc text qevOk) := by
  unfold transferHandleEvent
  cases qevOk with
  | false => exact .lost
  | true =>
      rw [if_neg (by decide)]
      cases hlc : bc.filter s.calls.listed with
      | none =>
          refine .noted _ (.inr fun id hbc => ?_)
          subst hbc
          simpa using hlc
      | some id =>
          obtain ⟨hbc, hlist⟩ := Option.filter_eq_some_iff.mp hlc
          cases text with
          | none => exact .noted _ (.inl rfl)
          | some txt => exact .kept _ hbc rfl hlist

/-- A REFER is declined if it is waiting for an answer. -/
theorem transferReject_cases (dispatch : XferResult) (id scode : Nat) (notify : Option Errno) (s : Transfers) :
    (∃ r, s.transferReject dispatch id scode notify = s.result r) ∨
      s.xferPending id = true ∧
        ∃ r, s.transferReject dispatch id scode notify =
          ((s.emit (.notify id scode)).clearPending id).result r := by
  unfold transferReject transferRejectFn
  split
  · exact .inl ⟨_, rfl⟩
  · split
    · split
      · exact .inl ⟨_, rfl⟩
      · cases hpending : s.xferPending id with
        | false => exact .inl ⟨_, rfl⟩
        | true => exact .inr ⟨rfl, _, rfl⟩
    · exact .inl ⟨_, rfl⟩

theorem transferAccept_cases (dispatch : XferResult) (id : Nat) (s : Transfers) :
    s.transferAccept dispatch id = { s with accepts := s.accepts ++ [(id, s.told id)] } ∨
      s.transferAccept dispatch id = s.result dispatch := by
  unfold transferAccept
  split
  · exact .inl rfl
  · exact .inr rfl

/-! ### Which REFER was the last -/

/-- The Refer-To of the last REFER of each call that was reported. -/
abbrev LastRefer := Nat → Option (Option CStr)

def LastRefer.next (s : Transfers) (act : XferAct) (_ : List XferOut) (last : LastRefer) : LastRefer :=
  match act with
  | .refer (some id) text true => if s.calls.listed id then Function.update last id (some text) else last
  | _ => last

/-- An answer that dials is to the report of the call's last REFER, whose Refer-To the wrapper has room for. -/
def approves (p : Transfers × LastRefer) : XferAct → Bool
  | .acceptRuns i env =>
      p.1.accepts[i]?.all fun q => !p.1.outstanding q.1 env ||
        (p.2 q.1).join.any fun text => decide (text.length < 256) &&
          decide (q.2.bind TransferReq.referToUri = some (strNcpy 4096 text))
  | _ => true

end Transfers

open Transfers

/-- The transfers with the last REFER of each call. -/
def referSystem (max : Nat) : Machine (Transfers × LastRefer) XferAct XferOut :=
  (transferSystem max).withHistory (fun _ => none) LastRefer.next

namespace Transfers

variable {s s' : Transfers} {last : LastRefer} {act : XferAct} {os : List XferOut}

/-- The wrapper has what it has room for of the last Refer-To. -/
def Keeps (last : LastRefer) (s : Transfers) : Prop :=
  ∀ id text, last id = some (some text) → s.xferReferTo id = strNcpy 256 text

theorem Keeps.refer (h : Keeps last s) (os : List XferOut) {bc : Option Nat} {text : Option CStr} {qevOk : Bool}
    (hstep : ReferStep bc text s qevOk s') : Keeps (LastRefer.next s (.refer bc text qevOk) os last) s' := by
  intro j t hlast
  cases hstep with
  | lost =>
      have hsame : LastRefer.next s (.refer bc text false) os last = last := by cases bc <;> rfl
      exact h j t (hsame ▸ hlast)
  | @kept asked id _ hbc htext hlist =>
      subst hbc htext
      simp only [LastRefer.next, hlist, if_true] at hlast
      by_cases hj : j = id
      · subst hj
        rw [Function.update_self] at hlast
        obtain rfl := Option.some.inj (Option.some.inj hlast)
        exact Function.update_self ..
      · rw [Function.update_of_ne hj] at hlast
        exact (Function.update_of_ne hj ..).trans (h j t hlast)
  | noted asked hnone =>
      apply h j t
      cases bc with
      | none => exact hlast
      | some id =>
          simp only [LastRefer.next] at hlast
          split at hlast
          · rename_i hlist
            obtain rfl | hgone := hnone
            · by_cases hj : j = id
              · subst hj
                rw [Function.update_self] at hlast
                cases Option.some.inj hlast
              · rwa [Function.update_of_ne hj] at hlast
            · rw [hgone id rfl] at hlist
              cases hlist
          · exact hlast

/-- Only a REFER writes a Refer-To. -/
theorem xferReferTo_act (hact : s.act act = some s') (hrefer : ∀ bc text qevOk, act ≠ .refer bc text qevOk) :
    s'.xferReferTo = s.xferReferTo := by
  cases act with
  | wrapper a =>
      obtain ⟨calls, -, rfl⟩ := Option.map_eq_some_iff.mp hact
      rfl
  | refer bc text qevOk => exact absurd rfl (hrefer bc text qevOk)
  | deliver handed =>
      simp only [Transfers.act] at hact
      split at hact
      · cases hact
      · obtain rfl := Option.some.inj hact
        cases handed <;> rfl
  | accept dispatch id =>
      obtain ⟨-, heq⟩ := Option.ite_none_right_eq_some.mp hact
      obtain rfl := Option.some.inj heq
      rcases transferAccept_cases dispatch id s with heq | heq <;> rw [heq]
      rfl
  | acceptRuns i env =>
      obtain ⟨q, -, rfl⟩ := Option.map_eq_some_iff.mp hact
      exact (acceptStep q.1 env { s with accepts := s.accepts.eraseIdx i }).xferReferTo
  | reject dispatch id scode notify =>
      obtain ⟨-, heq⟩ := Option.ite_none_right_eq_some.mp hact
      obtain rfl := Option.some.inj heq
      rcases transferReject_cases dispatch id scode notify s with ⟨r, heq⟩ | ⟨-, r, heq⟩ <;>
        (rw [heq]; rfl)

theorem transferSystem_step {max : Nat} (h : (transferSystem max).step s act = some (s', os)) :
    s.idle.act act = some s' ∧ os = s'.outs := by
  obtain ⟨r, hact, heq⟩ := Option.map_eq_some_iff.mp h
  obtain ⟨rfl, rfl⟩ := Prod.mk.inj heq
  exact ⟨hact, rfl⟩

theorem Keeps.step {max : Nat} (h : Keeps last s) (hstep : (transferSystem max).step s act = some (s', os)) :
    Keeps (LastRefer.next s act os last) s' := by
  obtain ⟨hact, -⟩ := transferSystem_step hstep
  have hidle : Keeps last s.idle := h
  by_cases hrefer : ∃ bc text qevOk, act = .refer bc text qevOk
  · obtain ⟨bc, text, qevOk, rfl⟩ := hrefer
    obtain rfl := Option.some.inj hact
    exact hidle.refer os (referStep bc text qevOk s.idle)
  · have hsame := xferReferTo_act hact fun bc text qevOk heq => hrefer ⟨bc, text, qevOk, heq⟩
    have hlast : LastRefer.next s act os last = last := by
      cases act with
      | refer bc text qevOk => exact absurd ⟨bc, text, qevOk, rfl⟩ hrefer
      | _ => rfl
    intro id text hid
    rw [hsame]
    exact hidle id text (hlast ▸ hid)

theorem keeps_of_run {max : Nat} {C : Transfers × LastRefer → XferAct → Prop} {p : Transfers × LastRefer}
    {t : Trace XferAct XferOut} (hrun : (referSystem max).Run C p t) : Keeps p.2 p.1 := by
  refine hrun.stateInvariant (I := fun p => Keeps p.2 p.1) ?_ ?_
  · rintro p ⟨-, hlast⟩ id text hid
    rw [hlast] at hid
    cases hid
  · intro p act p' os h _ hs
    obtain ⟨hstep, hnext⟩ := Machine.withHistory_step.mp hs
    rw [hnext]
    exact h.step hstep

/-- baresip is asked to connect a call only for an answer, and to what the wrapper has kept. -/
theorem AcceptStep.connect {i j : Nat} {env : AcceptEnv} {uri : CStr} (h : AcceptStep i env s s')
    (hout : s.out = []) (hconnect : .connect j uri ∈ s'.out) :
    j = i ∧ uri = s.xferReferTo i ∧ s.outstanding i env = true := by
  cases h with
  | closed _ | nothing _ _ | unallocated _ _ _ | unwrapped _ _ _ => simp [hout] at hconnect
  | failed _ hwaiting _ _ _ | placed hwaiting _ _ _ =>
      simp only [hout, List.nil_append, List.mem_cons, reduceCtorEq, XferOut.connect.injEq, false_or, or_false,
        List.not_mem_nil] at hconnect
      exact ⟨hconnect.1, hconnect.2, hwaiting⟩

theorem ReferStep.connect {bc : Option Nat} {text : Option CStr} {qevOk : Bool} {j : Nat} {uri : CStr}
    (h : ReferStep bc text s.idle qevOk s') : .connect j uri ∉ s'.out := by
  cases h <;> simp [idle]

theorem connect_of_step {max : Nat} {j : Nat} {uri : CStr}
    (hstep : (transferSystem max).step s act = some (s', os))
    (hconnect : .connect j uri ∈ os) :
    ∃ i env approved, act = .acceptRuns i env ∧ s.accepts[i]? = some (j, approved) ∧
      uri = s.xferReferTo j ∧ s.outstanding j env = true := by
  obtain ⟨hact, rfl⟩ := transferSystem_step hstep
  have hmem : .connect j uri ∈ s'.out := by
    rcases List.mem_append.mp hconnect with hwrapper | hmem
    · obtain ⟨o, -, heq⟩ := List.mem_map.mp hwrapper
      cases heq
    · exact hmem
  cases act with
  | acceptRuns i env =>
      obtain ⟨⟨id, approved⟩, hi, rfl⟩ := Option.map_eq_some_iff.mp hact
      obtain ⟨rfl, huri, hwaiting⟩ := (acceptStep id env _).connect rfl hmem
      exact ⟨i, env, approved, rfl, hi, huri, hwaiting⟩
  | wrapper a =>
      obtain ⟨calls, -, rfl⟩ := Option.map_eq_some_iff.mp hact
      cases hmem
  | refer bc text qevOk =>
      obtain rfl := Option.some.inj hact
      exact absurd hmem (referStep bc text qevOk s.idle).connect
  | deliver handed =>
      simp only [Transfers.act] at hact
      split at hact
      · cases hact
      · obtain rfl := Option.some.inj hact
        cases handed <;> simp [hear, emit, idle] at hmem
  | accept dispatch id =>
      obtain ⟨-, heq⟩ := Option.ite_none_right_eq_some.mp hact
      obtain rfl := Option.some.inj heq
      rcases transferAccept_cases dispatch id s.idle with heq | heq
      · rw [heq] at hmem
        cases hmem
      · rw [heq] at hmem
        simp [result, emit, idle] at hmem
  | reject dispatch id scode notify =>
      obtain ⟨-, heq⟩ := Option.ite_none_right_eq_some.mp hact
      obtain rfl := Option.some.inj heq
      rcases transferReject_cases dispatch id scode notify s.idle with ⟨r, heq⟩ | ⟨-, r, heq⟩
      · rw [heq] at hmem
        simp [result, emit, idle] at hmem
      · rw [heq] at hmem
        simp [result, emit, clearPending, idle] at hmem

end Transfers

/-- **The SDK dials what the application approved**, in every run in which it answers the last report of the
call, of a Refer-To of at most 255 characters. -/
theorem accept_dials_approved {max : Nat} {p p' : Transfers × LastRefer} {t : Trace XferAct XferOut}
    {act : XferAct} {os : List XferOut} {id : Nat} {uri : CStr}
    (hrun : (referSystem max).Run (fun p act => approves p act) p t) (happroves : approves p act = true)
    (hstep : (referSystem max).step p act = some (p', os)) (hconnect : .connect id uri ∈ os) :
    ∃ i env req, act = .acceptRuns i env ∧ p.1.accepts[i]? = some (id, some req) ∧
      req.referToUri = some uri := by
  have hkeeps := keeps_of_run hrun
  obtain ⟨i, env, approved, rfl, hi, rfl, hwaiting⟩ :=
    connect_of_step (Machine.withHistory_step.mp hstep).1 hconnect
  simp only [approves, hi, Option.all_some, hwaiting, Bool.not_true, Bool.false_or] at happroves
  obtain ⟨text, hlast, hfits⟩ := (Option.any_eq_true _ _).mp happroves
  rw [Bool.and_eq_true, decide_eq_true_iff, decide_eq_true_iff] at hfits
  obtain ⟨hlen, hreport⟩ := hfits
  obtain ⟨req, rfl, huri⟩ := Option.bind_eq_some_iff.mp hreport
  refine ⟨i, env, req, rfl, hi, huri.trans ?_⟩
  have hkept := hkeeps id text (Option.join_eq_some_iff.mp hlast)
  rw [hkept, strNcpy, strNcpy, List.take_of_length_le (by omega), List.take_of_length_le (by omega)]

/-- A call that is up when the transfers start. -/
def Transfers.fresh : Transfers :=
  { calls := .fresh 4096 false
    xferReferTo := fun _ => []
    xferPending := fun _ => false
    asked := []
    told := fun _ => none
    accepts := []
    out := [] }

/-- baresip finds nothing wrong. -/
def AcceptEnv.good : AcceptEnv := { ua := true, alloc := none, wrapOk := true, events := [], connect := none }

/-- A REFER to `sip:b` is reported, approved and dialled. -/
theorem accept_dials_approved_short :
    ∃ (p p' : Transfers × Transfers.LastRefer) (act : XferAct) (os : List XferOut),
      (referSystem 4096).step p act = some (p', os) ∧ .connect 0 ['s', 'i', 'p', ':', 'b'] ∈ os ∧
      ∃ i env req, act = .acceptRuns i env ∧ p.1.accepts[i]? = some (0, some req) ∧
        req.referToUri = some ['s', 'i', 'p', ':', 'b'] := by
  obtain ⟨p, t, hrun, hend⟩ := Machine.exists_run_of_exec (M := referSystem 4096) (s := (.fresh, fun _ => none))
    (fun p act => Transfers.approves p act) ⟨⟨_, ⟨true, false, rfl⟩, rfl⟩, rfl⟩
    [.wrapper (.invite true), .refer (some 0) (some ['s', 'i', 'p', ':', 'b']) true, .deliver true,
      .accept .ok 0, .acceptRuns 0 .good]
    (fun _ t => t[4]?.any fun q : XferAct × List XferOut => decide (.connect 0 ['s', 'i', 'p', ':', 'b'] ∈ q.2))
    (by decide +kernel)
  obtain ⟨⟨act, os⟩, hp, hconnect⟩ := (Option.any_eq_true _ _).mp hend
  obtain ⟨p, p', hprev, happroves, hstep, -⟩ := hrun.at_index hp
  have hmem := of_decide_eq_true hconnect
  exact ⟨p, p', act, os, hstep, hmem, accept_dials_approved hprev happroves hstep hmem⟩

/-- A Refer-To of 256 characters loses its last. -/
theorem accept_dials_cut :
    ¬∀ (max : Nat) (s s' : Transfers) (t : Trace XferAct XferOut) (act : XferAct) (os : List XferOut) (id : Nat)
      (uri : CStr), (transferSystem max).Run Machine.Always s t →
      (transferSystem max).step s act = some (s', os) → .connect id uri ∈ os →
      ∃ i env req, act = .acceptRuns i env ∧ s.accepts[i]? = some (id, some req) ∧ req.referToUri = some uri := by
  intro h
  obtain ⟨s, t, hrun, hend⟩ := Machine.exists_run_of_exec (M := transferSystem 4096) (s := .fresh)
    (fun _ _ => true) ⟨_, ⟨true, false, rfl⟩, rfl⟩
    [.wrapper (.invite true), .refer (some 0) (some (List.replicate 256 'b')) true, .deliver true, .accept .ok 0]
    (fun s _ => decide (s.accepts[0]?.bind (fun q : Nat × Option TransferReq => q.2.bind TransferReq.referToUri) =
        some (List.replicate 256 'b')) &&
      ((transferSystem 4096).step s (.acceptRuns 0 .good)).any fun r : Transfers × List XferOut =>
        decide (.connect 0 (List.replicate 255 'b') ∈ r.2)) (by decide +kernel)
  obtain ⟨happroved, hstep⟩ := Bool.and_eq_true_iff.mp hend
  obtain ⟨⟨s', os⟩, hs', hconnect⟩ := (Option.any_eq_true _ _).mp hstep
  obtain ⟨i, env, req, heq, hi, huri⟩ := h _ _ _ _ _ _ _ _ hrun.always hs' (of_decide_eq_true hconnect)
  obtain ⟨rfl, -⟩ := XferAct.acceptRuns.inj heq
  have hreq := of_decide_eq_true happroved
  rw [hi, Option.bind_some, Option.bind_some, huri] at hreq
  have hlen := congrArg (Option.elim · 0 List.length) hreq
  simp only [Option.elim_some, List.length_replicate] at hlen
  exact absurd hlen (by decide)

end VoxSdk
