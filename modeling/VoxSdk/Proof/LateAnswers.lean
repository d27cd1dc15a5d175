import VoxSdk.Accounts
import VoxSdk.Proof.HandlerLemmas

/-!
# Late answers

An answer finds its account by address. As long as whoever lives there is the one that asked, an answer to
an account that is gone finds nobody, and an SRV list holds what its own account has asked for. Everything
else a handler does leaves the number, the configuration and the SRV list of its account alone.
-/

namespace VoxSdk

open Reactive

/-- A lookup. -/
def AcctOut.isLookup : AcctOut → Bool
  | .dnsResolve _ => true
  | _ => false

namespace Account

variable {g : Cfg} {now : Nat} {a b c : Account}

/-- `b` is `a` after something that is no SRV answer: it has asked for its own server only. -/
structure Kept (a b : Account) : Prop where
  id : b.id = a.id
  cfg : b.cfg = a.cfg
  uri : b.srv.uri = a.srv.uri
  out : ∃ os, b.out = a.out ++ os ∧ ∀ host, .dnsResolve host ∈ os → host = a.serverName

namespace Kept

theorem refl (a : Account) : a.Kept a := ⟨rfl, rfl, rfl, [], (List.append_nil _).symm, by simp⟩

theorem serverName (h : a.Kept b) : b.serverName = a.serverName := by
  unfold Account.serverName
  rw [h.cfg]

/-- What is neither number, configuration, SRV list nor output may change. -/
theorem congr (h : a.Kept b) (hid : c.id = b.id) (hcfg : c.cfg = b.cfg) (huri : c.srv.uri = b.srv.uri)
    (hout : c.out = b.out) : a.Kept c := by
  obtain ⟨os, hos, hhost⟩ := h.out
  exact ⟨hid.trans h.id, hcfg.trans h.cfg, huri.trans h.uri, os, hout.trans hos, hhost⟩

theorem emit_asked (h : a.Kept b) (o : AcctOut) (ho : ∀ host, o = .dnsResolve host → host = a.serverName) :
    a.Kept (b.emit o) := by
  obtain ⟨os, hos, hhost⟩ := h.out
  refine ⟨h.id, h.cfg, h.uri, os ++ [o], ?_, ?_⟩
  · rw [← List.append_assoc, ← hos]
    rfl
  · intro host hmem
    rw [List.mem_append, List.mem_singleton] at hmem
    rcases hmem with hmem | hmem
    · exact hhost host hmem
    · exact ho host hmem.symm

theorem emit (h : a.Kept b) (o : AcctOut) (ho : o.isLookup = false) : a.Kept (b.emit o) := by
  refine h.emit_asked o ?_
  rintro host rfl
  cases ho

theorem setRegState (h : a.Kept b) (st : RegState) : a.Kept (b.setRegState st) :=
  (h.emit (.regState st) rfl).congr rfl rfl rfl rfl

theorem postCopied (h : a.Kept b) (ev : RegEvent) (reason : ErrStr) : a.Kept (b.postCopied ev reason) := by
  obtain ⟨lastRc, retryDelayMs, o, ho, heq⟩ : ∃ lastRc retryDelayMs o, o.isLookup = false ∧
      b.postCopied ev reason = ({ b with lastRc, retryDelayMs } : Account).emit o := by
    unfold Account.postCopied regEvPrepare
    by_cases hst : ev.state ≠ .reconnecting
    · exact ⟨_, _, _, rfl, by simp only [hst, ne_eq, not_false_eq_true, if_true]; rfl⟩
    · by_cases hsame : b.sameReport ev.error = true
      · exact ⟨b.lastRc, b.retryDelayMs, .suppressed (b.stamp ev), rfl,
          by simp only [hst, hsame, if_false, if_true]⟩
      · exact ⟨_, b.retryDelayMs, _, rfl, by simp only [hst, hsame, if_false, Bool.false_eq_true]; rfl⟩
  have hmarked : a.Kept { b with lastRc, retryDelayMs } := h.congr rfl rfl rfl rfl
  rw [heq]
  exact hmarked.emit o ho

theorem postPrepared (h : a.Kept b) (ev : RegEvent) : a.Kept (b.postPrepared ev) := by
  rw [postPrepared_eq_postCopied]
  exact h.postCopied ev _

theorem keepaliveArm (h : a.Kept b) : a.Kept (b.keepaliveArm g now) := by
  rw [keepaliveArm_eq]
  exact h.congr rfl rfl rfl rfl

theorem beventRegistering (h : a.Kept b) : a.Kept b.beventRegistering := by
  simp only [Account.beventRegistering]
  split
  · exact (h.setRegState _).postCopied _ _
  · exact (h.setRegState _).emit _ rfl

theorem uaRegister (h : a.Kept b) (reporting : Bool) : a.Kept (b.uaRegister reporting) := by
  have hasked : a.Kept (b.emit (.uaRegister b.regWanted)) := h.emit _ rfl
  simp only [Account.uaRegister]
  split
  · exact hasked.beventRegistering
  · exact hasked

theorem uaUnregister (h : a.Kept b) (reporting : Bool) : a.Kept (b.uaUnregister reporting) := by
  have hasked : a.Kept (b.emit .uaUnregister) := h.emit _ rfl
  simp only [Account.uaUnregister]
  split
  · simp only [beventUnregistering]
    apply postPrepared
    exact (hasked.setRegState .unregistering).congr rfl rfl rfl rfl
  · exact hasked

theorem watchRegistration (h : a.Kept b) : a.Kept (b.watchRegistration now) := by
  unfold Account.watchRegistration
  split
  · exact h
  · exact h.congr rfl rfl rfl rfl

theorem scheduleRetry (h : a.Kept b) (rand : Nat) : a.Kept (b.scheduleRetry g now rand) := by
  simp only [Account.scheduleRetry]
  split
  · exact h
  · split
    · split
      · exact h.congr rfl rfl rfl rfl
      · apply postPrepared
        apply setRegState
        exact h.congr rfl rfl rfl rfl
    · have hmarked : a.Kept { b with
          retryAttempt := u32 (b.retryAttempt + 1)
          retryDelayMs := b.retryDelay g rand
          reconnecting := true } := h.congr rfl rfl rfl rfl
      exact ((hmarked.setRegState .reconnecting).postPrepared _).congr rfl rfl rfl rfl

/-- The one place that asks: the host is the account's own server. -/
theorem srvResolve (h : a.Kept b) (dnsErr : Bool) : a.Kept (b.srvResolve g dnsErr) := by
  have hmarked : a.Kept { b with srv := { b.srv with tried := true, pending := true } } :=
    h.congr rfl rfl rfl rfl
  have hasked := hmarked.emit_asked (.dnsResolve b.serverName) (by
    rintro host ⟨⟩
    exact h.serverName)
  simp only [Account.srvResolve]
  split
  · exact h
  · split
    · exact h
    · split
      · exact hasked.congr rfl rfl rfl rfl
      · exact hasked

theorem srvAdvance (h : a.Kept b) : a.Kept b.srvAdvance := by
  simp only [Account.srvAdvance]
  split
  · exact h
  · apply emit _ _ rfl
    exact h.congr rfl rfl rfl rfl

theorem keepaliveHandler (h : a.Kept b) (inCall sendErr : Bool) :
    a.Kept (b.keepaliveHandler g now inCall sendErr) := by
  have hflight (kaInFlight : Bool) : a.Kept { b with kaInFlight } := h.congr rfl rfl rfl rfl
  unfold Account.keepaliveHandler
  repeat' split
  · exact h
  · exact h
  · exact h.keepaliveArm
  · exact h
  · exact (hflight false).keepaliveArm
  · exact (hflight true).emit _ rfl

theorem regFailState (h : a.Kept b) (err : VoxError) : a.Kept (b.regFailState g err).2 :=
  h.congr rfl rfl rfl rfl

theorem keepaliveRespHandler (h : a.Kept b) (answered registered : Bool) (rand : Nat) :
    a.Kept (b.keepaliveRespHandler g now answered registered rand) := by
  unfold Account.keepaliveRespHandler
  split
  · exact h
  · extract_lets +onlyGivenNames flight
    have hflight : a.Kept flight := h.congr rfl rfl rfl rfl
    split
    · apply keepaliveArm
      have hback : a.Kept { flight with kaFailed := false } := hflight.congr rfl rfl rfl rfl
      split
      · apply postPrepared
        exact (hback.setRegState .registered).congr rfl rfl rfl rfl
      · exact hback
    · extract_lets +onlyGivenNames warned lost again
      have hlost : a.Kept lost := (hflight.emit .registrarWarning rfl).congr rfl rfl rfl rfl
      have hmarked : a.Kept (if again = true then lost.regFailState g .timeout
          else (if lost.regWanted = true then .reconnecting else .failed,
            { lost with reconnecting := lost.regWanted })).2 := by
        split
        · exact hlost.regFailState _
        · exact hlost.congr rfl rfl rfl rfl
      generalize (if again = true then lost.regFailState g .timeout else _) = marked at hmarked ⊢
      obtain ⟨st, c⟩ := marked
      have hposted : a.Kept (({ c.setRegState st with
          regErrorStr := strNcpy 256 "keepalive probe timed out".toList } : Account).postPrepared
            (.of st .timeout .acct)) := by
        apply postPrepared
        exact (setRegState hmarked st).congr rfl rfl rfl rfl
      simp only
      split
      · exact hposted.scheduleRetry rand
      · exact hposted.keepaliveArm

theorem handle (act : AcctAct) (hact : act.isEvent = true) : a.Kept (a.handle g now act) := by
  cases act with
  | register dnsErr reporting =>
      simp only [Account.handle, registerFn]
      split
      · apply watchRegistration
        apply uaRegister
        apply srvResolve
        exact (refl a).congr rfl rfl rfl rfl
      · exact refl a
  | unregister reporting =>
      simp only [Account.handle, unregisterFn]
      split
      · apply uaUnregister
        exact (refl a).congr rfl rfl rfl rfl
      · exact refl a
  | retryNow reporting =>
      have hreset : a.Kept { a with retryTmr := none, retryAttempt := 0 } :=
        (refl a).congr rfl rfl rfl rfl
      simp only [Account.handle, retryNowFn]
      split
      · apply watchRegistration
        apply uaRegister
        exact (refl a).congr rfl rfl rfl rfl
      · exact hreset
  | cancelRetry =>
      have hreset : a.Kept { a with retryTmr := none, regWatchTmr := none, retryAttempt := 0 } :=
        (refl a).congr rfl rfl rfl rfl
      simp only [Account.handle, cancelRetryFn]
      split
      · apply emit _ _ rfl
        apply setRegState
        exact (refl a).congr rfl rfl rfl rfl
      · exact hreset
  | setRetryPolicy initialMs maxMs backoff maxAttempts => exact (refl a).congr rfl rfl rfl rfl
  | setPushToken token dupOk reporting =>
      have hstored : a.Kept (a.storePushToken token dupOk) := (refl a).congr rfl rfl rfl rfl
      simp only [Account.handle, setPushTokenFn]
      split
      · exact (refl a).emit _ rfl
      · split
        · exact hstored.emit _ rfl
        · apply emit _ _ rfl
          split
          · exact hstored
          · exact hstored.uaRegister _
  | keepaliveNow inCall sendErr =>
      apply keepaliveHandler
      exact (refl a).congr rfl rfl rfl rfl
  | registerOk =>
      simp only [Account.handle, beventRegisterOk]
      apply postPrepared
      apply keepaliveArm
      exact ((refl a).setRegState .registered).congr rfl rfl rfl rfl
  | registerFail reason rand =>
      simp only [Account.handle, beventRegisterFail]
      apply postCopied
      have hfailed : a.Kept { keepaliveCancel { Account.setRegState
            (a.regFailState g (registerFailError reason)).1
            (a.regFailState g (registerFailError reason)).2 with regError := registerFailError reason } with
          regErrorStr := (reason.map (strNcpy 256)).getD a.regErrorStr } :=
        (((refl a).regFailState (g := g) _).setRegState _).congr rfl rfl rfl rfl
      split
      · exact hfailed.scheduleRetry rand
      · exact hfailed
  | srvDone targets => cases hact
  | retryFires reporting =>
      have hfired : a.Kept { a with retryTmr := none } := (refl a).congr rfl rfl rfl rfl
      simp only [Account.handle, retryTimerHandler]
      split
      · exact hfired
      · exact (hfired.srvAdvance.uaRegister _).watchRegistration
  | watchFires registered rand =>
      have hfired : a.Kept { a with retryTmr := a.retryTmr, regWatchTmr := none } :=
        (refl a).congr rfl rfl rfl rfl
      simp only [Account.handle, regWatchHandler]
      repeat' split
      · exact hfired
      · exact hfired
      · exact hfired
      · apply postPrepared
        apply keepaliveArm
        exact ((hfired.emit .registrarWarning rfl).setRegState .registered).congr rfl rfl rfl rfl
      · apply scheduleRetry
        apply postPrepared
        have hlate : a.Kept { a with
            regWatchTmr := none
            regWatchElapsedMs := u32 (a.regWatchElapsedMs + regWatchIntervalMs)
            regError := .timeout } := (refl a).congr rfl rfl rfl rfl
        exact ((hlate.regFailState (g := g) .timeout).setRegState _).congr rfl rfl rfl rfl
      · exact (refl a).congr rfl rfl rfl rfl
  | keepaliveFires inCall sendErr =>
      apply keepaliveHandler
      exact (refl a).congr rfl rfl rfl rfl
  | optionsAnswered answered registered rand => cases hact
  | handoverMark =>
      simp only [Account.handle, regReconnecting]
      split
      · exact refl a
      · split
        · exact refl a
        · apply postPrepared
          have hmarked : a.Kept { a with reconnecting := true } := (refl a).congr rfl rfl rfl rfl
          exact (hmarked.setRegState .reconnecting).congr rfl rfl rfl rfl
  | handoverToRetry rand =>
      simp only [Account.handle, Account.handoverToRetry]
      split
      · exact (refl a).scheduleRetry rand
      · exact refl a
  | handoverReregister reporting =>
      simp only [Account.handle, reregister]
      split
      · exact refl a
      · apply watchRegistration
        apply uaRegister
        exact (refl a).congr rfl rfl rfl rfl
  | elapse ms => cases hact

end Kept

/-- The outbound URI of an SRV target. -/
def targetUri (target : Transport × CStr × Nat) : CStr :=
  buildOutboundHost (strNcpy 256 target.2.1) target.2.2 target.1

/-- An SRV answer adds what it brings to the list, and asks for nothing. -/
theorem srvDoneHandler_keeps (targets : Option (List (Transport × CStr × Nat))) :
    (a.srvDoneHandler targets).id = a.id ∧ (a.srvDoneHandler targets).cfg = a.cfg ∧
      (a.srvDoneHandler targets).out = a.out ∧
      ∀ uri ∈ (a.srvDoneHandler targets).srv.uri,
        uri ∈ a.srv.uri ∨ ∃ ts, targets = some ts ∧ uri ∈ ts.map targetUri := by
  unfold srvDoneHandler
  split
  · exact ⟨rfl, rfl, rfl, fun uri hmem => Or.inl hmem⟩
  · cases targets with
    | none => exact ⟨rfl, rfl, rfl, fun uri hmem => Or.inl hmem⟩
    | some ts =>
        refine ⟨rfl, rfl, rfl, fun uri hmem => ?_⟩
        rcases List.mem_append.mp (List.mem_of_mem_take hmem) with hold | hnew
        · exact Or.inl hold
        · exact Or.inr ⟨ts, rfl, hnew⟩

end Account

/-- The question an input answers. -/
def AccountsAct.asked : AccountsAct → Option Ask
  | .srvAnswer ask _ => some ask
  | .optionsAnswer ask .. => some ask
  | _ => none

namespace Accounts

variable {g : Cfg} {s s' : Accounts} {act : AccountsAct} {os outs outs' : List AccountsOut}

/-- An SRV answer to the account itself, about its own server, has brought the URI. -/
def Resolved (outs : List AccountsOut) (a : Account) (uri : CStr) : Prop :=
  ∃ ask targets, .srvAnswered ask (some targets) ∈ outs ∧ ask.asker = a.id ∧ ask.host = a.serverName ∧
    uri ∈ targets.map Account.targetUri

/-- What an account's handler leaves of the account. -/
structure Keeps (outs : List AccountsOut) (a b : Account) : Prop where
  id : b.id = a.id
  cfg : b.cfg = a.cfg
  asked : ∀ host, .dnsResolve host ∈ b.out → host = a.serverName
  uri : ∀ uri ∈ b.srv.uri, uri ∈ a.srv.uri ∨ Resolved outs a uri

theorem Keeps.of_kept {a b : Account} (h : a.idle.Kept b) : Keeps outs a b := by
  obtain ⟨os, hos, hhost⟩ := h.out
  refine ⟨h.id, h.cfg, fun host hmem => ?_, fun uri hmem => Or.inl (h.uri ▸ hmem)⟩
  rw [hos] at hmem
  exact hhost host hmem

/-- What is known of the accounts in every run: the numbers are used up in order, a lookup whose account
still lives where it was asks about that account's server, and every SRV list holds what was resolved for
its account. -/
structure Known (s : Accounts) (outs : List AccountsOut) : Prop where
  used : ∀ addr a, s.live addr = some a → a.id < s.nextId
  asker : ∀ ask ∈ s.asks, ask.asker < s.nextId
  host : ∀ ask ∈ s.asks, ask.kind = .srv → ∀ a, s.live ask.addr = some a → a.id = ask.asker →
    a.serverName = ask.host
  resolved : ∀ addr a, s.live addr = some a → ∀ uri ∈ a.srv.uri, Resolved outs a uri

theorem serverName_congr {a b : Account} (h : b.cfg = a.cfg) : b.serverName = a.serverName := by
  unfold Account.serverName
  rw [h]

theorem Resolved.congr {a b : Account} {uri : CStr} (h : Resolved outs a uri) (hsub : outs ⊆ outs')
    (hid : b.id = a.id) (hcfg : b.cfg = a.cfg) : Resolved outs' b uri := by
  obtain ⟨ask, targets, hmem, hasker, hhost, huri⟩ := h
  exact ⟨ask, targets, hsub hmem, hasker.trans hid.symm, hhost.trans (serverName_congr hcfg).symm, huri⟩

/-- A question of a handler is its account's, from where the account lives. -/
theorem mem_asks {a : Account} {addr : Nat} {ask : Ask} (h : ask ∈ a.asks addr) :
    ask.addr = addr ∧ ask.asker = a.id ∧ (ask.kind = .srv → .dnsResolve ask.host ∈ a.out) := by
  obtain ⟨o, ho, hask⟩ := List.mem_filterMap.mp h
  cases o with
  | dnsResolve host =>
      obtain ⟨-, ⟨⟩⟩ := Option.ite_none_right_eq_some.mp hask
      exact ⟨rfl, rfl, fun _ => ho⟩
  | uaOptionsSend host =>
      obtain rfl := Option.some.inj hask
      exact ⟨rfl, rfl, fun hkind => by cases hkind⟩
  | _ => cases hask

theorem onAccountAt_cases (addr : Nat) (f : Account → Account) (s : Accounts) :
    (s.live addr = none ∧ s.onAccountAt addr f = (s, [])) ∨
      ∃ a, s.live addr = some a ∧ s.onAccountAt addr f =
        ({ s with
            live := Function.update s.live addr (some (f a.idle))
            asks := s.asks ++ (f a.idle).asks addr },
          (f a.idle).out.map (.acct (f a.idle).id)) := by
  unfold onAccountAt
  cases h : s.live addr with
  | none => exact Or.inl ⟨rfl, rfl⟩
  | some a => exact Or.inr ⟨a, rfl, rfl⟩

theorem Known.mono (h : s.Known outs) (hsub : outs ⊆ outs') : s.Known outs' :=
  ⟨h.used, h.asker, h.host, fun addr a ha uri huri => (h.resolved addr a ha uri huri).congr hsub rfl rfl⟩

/-- A handler that keeps its account keeps what is known. -/
theorem Known.onAccountAt (h : s.Known outs) {addr : Nat} {f : Account → Account}
    (hf : ∀ a, s.live addr = some a → Keeps outs a (f a.idle)) :
    (s.onAccountAt addr f).1.Known outs := by
  rcases onAccountAt_cases addr f s with ⟨-, heq⟩ | ⟨a, ha, heq⟩
  · rw [heq]
    exact h
  · have hkeeps := hf a ha
    rw [heq]
    refine ⟨?_, ?_, ?_, ?_⟩
    · intro addr' b hb
      by_cases haddr : addr' = addr
      · simp only [haddr, Function.update_self, Option.some.injEq] at hb
        rw [← hb, hkeeps.id]
        exact h.used addr a ha
      · simp only [Function.update_of_ne haddr] at hb
        exact h.used addr' b hb
    · intro ask hask
      rcases List.mem_append.mp hask with hask | hask
      · exact h.asker ask hask
      · rw [(mem_asks hask).2.1, hkeeps.id]
        exact h.used addr a ha
    · intro ask hask hkind b hb hid
      by_cases haddr : ask.addr = addr
      · simp only [haddr, Function.update_self, Option.some.injEq] at hb
        rw [← hb, serverName_congr hkeeps.cfg]
        rcases List.mem_append.mp hask with hask | hask
        · exact h.host ask hask hkind a (haddr ▸ ha) (by rw [← hid, ← hb, hkeeps.id])
        · exact (hkeeps.asked _ ((mem_asks hask).2.2 hkind)).symm
      · simp only [Function.update_of_ne haddr] at hb
        rcases List.mem_append.mp hask with hask | hask
        · exact h.host ask hask hkind b hb hid
        · exact absurd (mem_asks hask).1 haddr
    · intro addr' b hb uri huri
      by_cases haddr : addr' = addr
      · simp only [haddr, Function.update_self, Option.some.injEq] at hb
        rw [← hb] at huri
        rw [← hb]
        rcases hkeeps.uri uri huri with hold | hnew
        · exact (h.resolved addr a ha uri hold).congr (List.Subset.refl _) hkeeps.id hkeeps.cfg
        · exact hnew.congr (List.Subset.refl _) hkeeps.id hkeeps.cfg
      · simp only [Function.update_of_ne haddr] at hb
        exact h.resolved addr' b hb uri huri

theorem step_srvAnswer {ask : Ask} {targets : Option (List (Transport × CStr × Nat))}
    (hstep : (accounts g).step s (.srvAnswer ask targets) = some (s', os)) :
    (ask ∈ s.asks ∧ ask.kind = .srv) ∧ s' = (s.srvDone ask targets).1 ∧
      os = .srvAnswered ask targets :: (s.srvDone ask targets).2 := by
  simp only [accounts] at hstep
  split at hstep
  · rename_i hout
    obtain ⟨rfl, rfl⟩ := Prod.mk.inj (Option.some.inj hstep)
    exact ⟨hout, rfl, rfl⟩
  · cases hstep

theorem step_optionsAnswer {ask : Ask} {answered registered : Bool} {rand : Nat}
    (hstep : (accounts g).step s (.optionsAnswer ask answered registered rand) = some (s', os)) :
    (ask ∈ s.asks ∧ ask.kind = .options) ∧ s' = (s.optionsDone g ask answered registered rand).1 ∧
      os = .optionsAnswered ask :: (s.optionsDone g ask answered registered rand).2 := by
  simp only [accounts] at hstep
  split at hstep
  · rename_i hout
    obtain ⟨rfl, rfl⟩ := Prod.mk.inj (Option.some.inj hstep)
    exact ⟨hout, rfl, rfl⟩
  · cases hstep

/-- The answers that find nobody, or the account that asked. -/
def keepsApart (s : Accounts) : AccountsAct → Bool
  | .srvAnswer ask _ => (s.live ask.addr).all fun a => decide (a.id = ask.asker)
  | .optionsAnswer ask .. => (s.live ask.addr).all fun a => decide (a.id = ask.asker)
  | _ => true

theorem Known.erase (h : s.Known outs) (ask : Ask) :
    ({ s with asks := s.asks.erase ask } : Accounts).Known outs :=
  ⟨h.used, fun ask' hask => h.asker ask' (List.mem_of_mem_erase hask),
    fun ask' hask => h.host ask' (List.mem_of_mem_erase hask), h.resolved⟩

theorem Known.create (h : s.Known outs) {addr : Nat} {cfg : AccountCfg} {pushToken : Option CStr} :
    ({ s with
        live := Function.update s.live addr (some (Account.create s.nextId cfg pushToken))
        nextId := s.nextId + 1 } : Accounts).Known outs := by
  refine ⟨?_, fun ask hask => Nat.lt_succ_of_lt (h.asker ask hask), ?_, ?_⟩
  · intro addr' b hb
    by_cases haddr : addr' = addr
    · simp only [haddr, Function.update_self, Option.some.injEq] at hb
      rw [← hb]
      exact Nat.lt_succ_self _
    · simp only [Function.update_of_ne haddr] at hb
      exact Nat.lt_succ_of_lt (h.used addr' b hb)
  · intro ask hask hkind b hb hid
    by_cases haddr : ask.addr = addr
    · -- the new account's number has never been used, so it is not the one that asked
      simp only [haddr, Function.update_self, Option.some.injEq] at hb
      have hnew : ask.asker = s.nextId := by
        rw [← hid, ← hb]
        rfl
      exact absurd (h.asker ask hask) (by omega)
    · simp only [Function.update_of_ne haddr] at hb
      exact h.host ask hask hkind b hb hid
  · intro addr' b hb uri huri
    by_cases haddr : addr' = addr
    · simp only [haddr, Function.update_self, Option.some.injEq] at hb
      rw [← hb] at huri
      exact absurd huri List.not_mem_nil
    · simp only [Function.update_of_ne haddr] at hb
      exact h.resolved addr' b hb uri huri

theorem Known.destroy (h : s.Known outs) (addr : Nat) : (s.destroyFn addr).Known outs := by
  have hlive (addr' : Nat) (b : Account) (hb : (s.destroyFn addr).live addr' = some b) :
      s.live addr' = some b := by
    by_cases haddr : addr' = addr
    · simp only [destroyFn, haddr, Function.update_self] at hb
      cases hb
    · simpa only [destroyFn, Function.update_of_ne haddr] using hb
  exact ⟨fun addr' b hb => h.used addr' b (hlive addr' b hb), h.asker,
    fun ask hask hkind b hb => h.host ask hask hkind b (hlive _ b hb),
    fun addr' b hb => h.resolved addr' b (hlive addr' b hb)⟩

theorem known_step (h : s.Known outs) (hapart : s.keepsApart act = true)
    (hstep : (accounts g).step s act = some (s', os)) : s'.Known (outs ++ os) := by
  have hsub : outs ⊆ outs ++ os := List.subset_append_left _ _
  cases act with
  | create addr cfg pushToken =>
      obtain ⟨-, ⟨⟩⟩ := Option.ite_none_right_eq_some.mp hstep
      exact h.create.mono hsub
  | destroy addr =>
      obtain ⟨-, ⟨⟩⟩ := Option.ite_none_right_eq_some.mp hstep
      exact (h.destroy addr).mono hsub
  | event addr act =>
      obtain ⟨hen, hsome⟩ := Option.ite_none_right_eq_some.mp hstep
      obtain rfl : s' = _ := (congrArg Prod.fst (Option.some.inj hsome)).symm
      have hevent := (Bool.and_eq_true_iff.mp hen).1
      exact (h.onAccountAt fun a _ => .of_kept (Account.Kept.handle act hevent)).mono hsub
  | srvAnswer ask targets =>
      obtain ⟨⟨hmem, hkind⟩, rfl, rfl⟩ := step_srvAnswer hstep
      refine ((h.erase ask).mono hsub).onAccountAt fun a ha => ?_
      obtain ⟨hid, hcfg, hout, huris⟩ := Account.srvDoneHandler_keeps (a := a.idle) targets
      have hasker : a.id = ask.asker := by
        simpa [keepsApart, show s.live ask.addr = some a from ha] using hapart
      refine ⟨hid, hcfg, fun host hhost => ?_, fun uri huri => ?_⟩
      · rw [hout] at hhost
        exact absurd hhost List.not_mem_nil
      · rcases huris uri huri with hold | ⟨ts, rfl, hnew⟩
        · exact Or.inl hold
        · refine Or.inr ⟨ask, ts, List.mem_append_right _ List.mem_cons_self, hasker.symm, ?_, hnew⟩
          exact (h.host ask hmem hkind a ha hasker).symm
  | optionsAnswer ask answered registered rand =>
      obtain ⟨-, rfl, rfl⟩ := step_optionsAnswer hstep
      exact ((h.erase ask).mono hsub).onAccountAt fun a _ =>
        .of_kept ((Account.Kept.refl _).keepaliveRespHandler answered registered rand)
  | elapse ms =>
      obtain ⟨rfl, rfl⟩ := Prod.mk.inj (Option.some.inj hstep)
      exact ⟨h.used, h.asker, h.host, (h.mono hsub).resolved⟩

/-- The account that asked is gone. -/
def Late (s : Accounts) (ask : Ask) : Prop := ∀ addr a, s.live addr = some a → a.id ≠ ask.asker

theorem onAccountAt_of_late {ask : Ask} (hlate : s.Late ask)
    (hapart : (s.live ask.addr).all (fun a => decide (a.id = ask.asker)) = true) (r : Accounts)
    (hr : r.live = s.live) (f : Account → Account) : r.onAccountAt ask.addr f = (r, []) := by
  rcases onAccountAt_cases ask.addr f r with ⟨-, heq⟩ | ⟨a, ha, -⟩
  · exact heq
  · rw [hr] at ha
    exact absurd (by simpa [ha] using hapart) (hlate ask.addr a ha)

/-- A late answer that the condition admits changes no account, and nothing is done for one. -/
theorem late_step {ask : Ask} (hask : act.asked = some ask) (hlate : s.Late ask)
    (hapart : s.keepsApart act = true) (hstep : (accounts g).step s act = some (s', os)) :
    s'.live = s.live ∧ ∀ id o, .acct id o ∉ os := by
  cases act with
  | srvAnswer ask' targets =>
      obtain rfl := Option.some.inj hask
      obtain ⟨-, rfl, rfl⟩ := step_srvAnswer hstep
      have hnobody : s.srvDone ask' targets = ({ s with asks := s.asks.erase ask' }, []) :=
        onAccountAt_of_late hlate hapart { s with asks := s.asks.erase ask' } rfl _
      rw [hnobody]
      exact ⟨rfl, by simp⟩
  | optionsAnswer ask' answered registered rand =>
      obtain rfl := Option.some.inj hask
      obtain ⟨-, rfl, rfl⟩ := step_optionsAnswer hstep
      have hnobody : s.optionsDone g ask' answered registered rand =
          ({ s with asks := s.asks.erase ask' }, []) :=
        onAccountAt_of_late hlate hapart { s with asks := s.asks.erase ask' } rfl _
      rw [hnobody]
      exact ⟨rfl, by simp⟩
  | _ => cases hask

variable {t : Trace AccountsAct AccountsOut}

theorem known_run (hrun : (accounts g).Run (fun s act => s.keepsApart act = true) s t) :
    s.Known t.outs := by
  refine hrun.invariant (I := fun s t => s.Known (Trace.outs t)) ?_ ?_
  · intro s hinit
    obtain ⟨hlive, hasks⟩ : (∀ addr, s.live addr = none) ∧ s.asks = [] := hinit
    refine ⟨fun addr a ha => ?_, fun ask hask => ?_, fun ask hask => ?_, fun addr a ha => ?_⟩
    · simp [hlive] at ha
    · simp [hasks] at hask
    · simp [hasks] at hask
    · simp [hlive] at ha
  · intro s t act s' os hknown hapart hstep
    rw [Trace.outs_append, Trace.outs_singleton]
    exact known_step hknown hapart hstep

/-- **Late answers touch nobody else.** In a run in which no answer arrives for an address where another
account lives than the one that asked, an answer whose account is gone changes no account and does nothing
for one; and every SRV list holds what was resolved for its own account. -/
theorem late_answers_apart (hrun : (accounts g).Run (fun s act => s.keepsApart act = true) s t) :
    (∀ act ask s' os, act.asked = some ask → s.Late ask → s.keepsApart act = true →
      (accounts g).step s act = some (s', os) → s'.live = s.live ∧ ∀ id o, .acct id o ∉ os) ∧
    ∀ addr a, s.live addr = some a → ∀ uri ∈ a.srv.uri, Resolved t.outs a uri :=
  ⟨fun _ _ _ _ hask hlate hapart hstep => late_step hask hlate hapart hstep, (known_run hrun).resolved⟩

/-- The lookup of an account that was at address 1. -/
def lookupOut : Ask := { kind := .srv, addr := 1, asker := 0, host := "sip.example.com".toList }

/-- An account asks for its SRV targets and is destroyed, and another is created at some address. -/
theorem exists_run_recreated (addr : Nat) : ∃ (s : Accounts) (t : Trace AccountsAct AccountsOut),
    (accounts configInit).Run (fun s act => s.keepsApart act = true) s t ∧ s.asks = [lookupOut] ∧
      s.Late lookupOut ∧ s.live addr = some (Account.create 1 (.plain "pbx.example.org".toList) none) ∧
      ∀ addr', addr' ≠ addr → s.live addr' = none := by
  obtain ⟨s, t, hrun, hasks, hlive, hnext⟩ : ∃ (s : Accounts) (t : Trace AccountsAct AccountsOut),
      (accounts configInit).Run (fun s act => s.keepsApart act = true) s t ∧ s.asks = [lookupOut] ∧
        (∀ addr, s.live addr = none) ∧ s.nextId = 1 := by
    have h₀ : (accounts configInit).Run (fun s act => s.keepsApart act = true)
        { now := 0, live := fun _ => none, asks := [], nextId := 0 } [] := .start ⟨fun _ => rfl, rfl⟩
    have h₁ := h₀.step (a := .create 1 (.plain "sip.example.com".toList) none) rfl rfl
    have h₂ := h₁.step (a := .event 1 (.register false false)) rfl rfl
    have h₃ := h₂.step (a := .destroy 1) rfl rfl
    refine ⟨_, _, h₃, rfl, fun addr => ?_, rfl⟩
    by_cases haddr : addr = 1
    · rw [haddr]
      rfl
    · simp [destroyFn]
  have hcreate : (accounts configInit).step s (.create addr (.plain "pbx.example.org".toList) none) =
      some ({ s with
        live := Function.update s.live addr
          (some (Account.create s.nextId (.plain "pbx.example.org".toList) none))
        nextId := s.nextId + 1 }, []) := if_pos (by simp [hlive])
  refine ⟨_, _, hrun.step rfl hcreate, hasks, ?_, ?_, fun addr' haddr => ?_⟩
  rotate_left
  · rw [← hnext]
    exact Function.update_self ..
  · simp only [Function.update_of_ne haddr]
    exact hlive addr'
  intro addr' a ha
  by_cases haddr : addr' = addr
  · simp only [haddr, Function.update_self, Option.some.injEq] at ha
    rw [← ha]
    change s.nextId ≠ 0
    omega
  · simp only [Function.update_of_ne haddr] at ha
    rw [hlive] at ha
    cases ha

/-- The other account is at another address: the answer finds nobody. -/
theorem late_answers_apart_elsewhere :
    ∃ (s s' : Accounts) (act : AccountsAct) (os : List AccountsOut), act.asked = some lookupOut ∧
      s.Late lookupOut ∧ (s.live 2).isSome = true ∧
      (accounts configInit).step s act = some (s', os) ∧ s'.live = s.live := by
  obtain ⟨s, t, hrun, hasks, hlate, hlive, hnone⟩ := exists_run_recreated 2
  let act : AccountsAct := .srvAnswer lookupOut (some [(.udp, "sip1.example.com".toList, 5060)])
  have hstep : (accounts configInit).step s act = some (_, _) := if_pos ⟨by simp [hasks], rfl⟩
  have hapart : s.keepsApart act = true := by
    have hgone : s.live lookupOut.addr = none := hnone 1 (by decide)
    simp [act, keepsApart, hgone]
  exact ⟨s, _, act, _, rfl, hlate, by rw [hlive]; rfl, hstep,
    ((late_answers_apart hrun).1 act lookupOut _ _ rfl hlate hapart hstep).1⟩

/-- It is at the same address, and takes the targets for its own. -/
theorem late_answer_mistaken :
    ¬ ∀ (g : Cfg) (s : Accounts) (t : Trace AccountsAct AccountsOut),
      (accounts g).Run Machine.Always s t →
      ∀ act ask s' os, act.asked = some ask → s.Late ask →
        (accounts g).step s act = some (s', os) → s'.live = s.live ∧ ∀ id o, .acct id o ∉ os := by
  intro h
  obtain ⟨s, t, hrun, hasks, hlate, hlive, -⟩ := exists_run_recreated 1
  have hstep : (accounts configInit).step s
      (.srvAnswer lookupOut (some [(.udp, "sip1.example.com".toList, 5060)])) = some (_, _) :=
    if_pos ⟨by simp [hasks], rfl⟩
  have hsame := congrFun (h configInit s t hrun.always _ _ _ _ rfl hlate hstep).1 1
  have hlen := congrArg (Option.map fun a : Account => a.srv.uri.length) hsame
  simp only [lookupOut, hlive, Function.update_self] at hlen
  exact absurd hlen (by decide)

/-! ### Fresh addresses -/

/-- No account is put where answers are waited for. -/
def usesFreshAddr (s : Accounts) : AccountsAct → Bool
  | .create addr .. => s.asks.all fun ask => decide (ask.addr ≠ addr)
  | _ => true

/-- Every question that is out finds nobody, or the account that asked. -/
def Apart (s : Accounts) : Prop := ∀ ask ∈ s.asks, ∀ a, s.live ask.addr = some a → a.id = ask.asker

theorem apart_onAccountAt (h : s.Apart) {addr : Nat} {f : Account → Account}
    (hf : ∀ a, s.live addr = some a → (f a.idle).id = a.id) : (s.onAccountAt addr f).1.Apart := by
  rcases onAccountAt_cases addr f s with ⟨-, heq⟩ | ⟨a, ha, heq⟩
  · rw [heq]
    exact h
  · rw [heq]
    intro ask hask b hb
    rcases List.mem_append.mp hask with hask | hask
    · by_cases haddr : ask.addr = addr
      · simp only [haddr, Function.update_self, Option.some.injEq] at hb
        rw [← hb, hf a ha]
        exact h ask hask a (haddr ▸ ha)
      · simp only [Function.update_of_ne haddr] at hb
        exact h ask hask b hb
    · obtain ⟨haddr, hasker, -⟩ := mem_asks hask
      simp only [haddr, Function.update_self, Option.some.injEq] at hb
      rw [← hb, hasker]

theorem Apart.erase (h : s.Apart) (ask : Ask) : ({ s with asks := s.asks.erase ask } : Accounts).Apart :=
  fun ask' hask => h ask' (List.mem_of_mem_erase hask)

theorem apart_step (h : s.Apart) (hfresh : s.usesFreshAddr act = true)
    (hstep : (accounts g).step s act = some (s', os)) : s'.Apart := by
  cases act with
  | create addr cfg pushToken =>
      obtain ⟨-, ⟨⟩⟩ := Option.ite_none_right_eq_some.mp hstep
      intro ask hask b hb
      have haddr : ask.addr ≠ addr := of_decide_eq_true (List.all_eq_true.mp hfresh ask hask)
      simp only [Function.update_of_ne haddr] at hb
      exact h ask hask b hb
  | destroy addr =>
      obtain ⟨-, ⟨⟩⟩ := Option.ite_none_right_eq_some.mp hstep
      intro ask hask b hb
      by_cases haddr : ask.addr = addr
      · simp only [destroyFn, haddr, Function.update_self] at hb
        cases hb
      · simp only [destroyFn, Function.update_of_ne haddr] at hb
        exact h ask hask b hb
  | event addr act =>
      obtain ⟨hen, hsome⟩ := Option.ite_none_right_eq_some.mp hstep
      obtain rfl : s' = _ := (congrArg Prod.fst (Option.some.inj hsome)).symm
      have hevent := (Bool.and_eq_true_iff.mp hen).1
      exact apart_onAccountAt h fun a _ => (Account.Kept.handle act hevent).id
  | srvAnswer ask targets =>
      obtain ⟨-, rfl, rfl⟩ := step_srvAnswer hstep
      exact apart_onAccountAt (h.erase ask) fun a _ => (Account.srvDoneHandler_keeps targets).1
  | optionsAnswer ask answered registered rand =>
      obtain ⟨-, rfl, rfl⟩ := step_optionsAnswer hstep
      exact apart_onAccountAt (h.erase ask) fun a _ =>
        ((Account.Kept.refl _).keepaliveRespHandler answered registered rand).id
  | elapse ms =>
      obtain ⟨rfl, rfl⟩ := Prod.mk.inj (Option.some.inj hstep)
      exact h

theorem all_asker_of_apart (h : s.Apart) {ask : Ask} (hask : ask ∈ s.asks) :
    (s.live ask.addr).all (fun a => decide (a.id = ask.asker)) = true := by
  cases hlive : s.live ask.addr with
  | none => rfl
  | some a => exact decide_eq_true (h ask hask a hlive)

theorem keepsApart_of_apart (h : s.Apart) (hstep : (accounts g).step s act = some (s', os)) :
    s.keepsApart act = true := by
  cases act with
  | srvAnswer ask targets =>
      obtain ⟨⟨hmem, -⟩, -, -⟩ := step_srvAnswer hstep
      exact all_asker_of_apart h hmem
  | optionsAnswer ask answered registered rand =>
      obtain ⟨⟨hmem, -⟩, -, -⟩ := step_optionsAnswer hstep
      exact all_asker_of_apart h hmem
  | _ => rfl

/-- An allocator that leaves an address alone while an answer is waited for there keeps the accounts
apart. -/
theorem keepsApart_of_fresh (hrun : (accounts g).Run (fun s act => s.usesFreshAddr act = true) s t) :
    (accounts g).Run (fun s act => s.keepsApart act = true) s t := by
  have hboth : s.Apart ∧ (accounts g).Run (fun s act => s.keepsApart act = true) s t := by
    induction hrun with
    | start hinit =>
        refine ⟨fun ask hask => ?_, .start hinit⟩
        rw [hinit.2] at hask
        cases hask
    | step _ hfresh hstep ih =>
        exact ⟨apart_step ih.1 hfresh hstep, ih.2.step (keepsApart_of_apart ih.1 hstep) hstep⟩
  exact hboth.2

end Accounts

end VoxSdk
