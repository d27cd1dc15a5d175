import VoxSdk.Proof.Ownership

/-!
# What an attempt costs a call

`net_mig_tries` counts the offers of a migration and the ticks spent waiting, so it is never behind the
offers. Each function that may offer makes one offer at most, and leaves the call with room for what it
may still be sent.
-/

namespace VoxSdk

open Reactive

/-- What network and baresip answer while the handler of the event runs. -/
def SysAct.env : SysAct → Option NetEnv
  | .callSdpAnswer _ env | .statsTick _ _ _ env | .networkChanged env | .localAddr env
  | .pollFires env | .settleFires env | .verifyFires env => some env
  | _ => none

/-- An offer for the call: `call_reset_transp`, or an ICE restart that is started. -/
def SysOut.isOffer (env : Option NetEnv) (id : Nat) : SysOut → Bool
  | .callResetTransp call _ => decide (call = id)
  | .iceRestart call _ =>
      decide (call = id) && env.all fun env => (env.call id).iceRestart.isNone
  | _ => false

def offers (env : Option NetEnv) (id : Nat) (os : List SysOut) : Nat :=
  os.countP (SysOut.isOffer env id)

@[simp]
theorem offers_nil (env : Option NetEnv) (id : Nat) : offers env id [] = 0 := rfl

@[simp]
theorem offers_append (env : Option NetEnv) (id : Nat) (os os' : List SysOut) :
    offers env id (os ++ os') = offers env id os + offers env id os' :=
  List.countP_append

theorem offers_eq_zero {env : Option NetEnv} {id : Nat} {os : List SysOut}
    (h : ∀ o ∈ os, o.isOffer env id = false) : offers env id os = 0 := by
  apply List.countP_eq_zero.mpr
  intro o ho
  simp [h o ho]

namespace Call

/-- The budget of the round, whatever ICE makes of it. -/
def roundLimit (max : Nat) (c : Call) : Nat :=
  if c.netMigStall then min max netStallAttempts else max

/-- The room a call has left after `o` offers of its round. -/
structure Budgeted (max o : Nat) (c : Call) : Prop where
  offers : o ≤ c.netMigTries
  first : c.netMigState = .stalled ∨ c.netMigState = .waitAddr → o = 0
  room : c.netMigState = .stalled ∨ c.netMigState = .waitAddr ∨ c.netMigState = .deferred →
    c.netMigTries < max
  deferred : c.netMigState = .deferred → o < c.roundLimit max

/-- What a budget is worked out from. -/
structure SameBudget (c d : Call) : Prop where
  id : d.id = c.id
  bc : d.bc = c.bc
  acct : d.acct = c.acct
  state : d.netMigState = c.netMigState
  tries : d.netMigTries = c.netMigTries
  stall : d.netMigStall = c.netMigStall
  restarted : d.netIceRestarted = c.netIceRestarted
  out : d.out = c.out

variable {g : Cfg} {nm : Netmon} {now : Nat} {env : NetEnv} {c d e : Call} {o : Nat}

theorem SameBudget.trans (h : c.SameBudget d) (h' : d.SameBudget e) : c.SameBudget e where
  id := h'.id.trans h.id
  bc := h'.bc.trans h.bc
  acct := h'.acct.trans h.acct
  state := h'.state.trans h.state
  tries := h'.tries.trans h.tries
  stall := h'.stall.trans h.stall
  restarted := h'.restarted.trans h.restarted
  out := h'.out.trans h.out

theorem sameBudget_laddrRemember (sa : Sa) : c.SameBudget (c.laddrRemember sa) := by
  unfold laddrRemember
  split
  · exact ⟨rfl, rfl, rfl, rfl, rfl, rfl, rfl, rfl⟩
  · split <;> exact ⟨rfl, rfl, rfl, rfl, rfl, rfl, rfl, rfl⟩

theorem sameBudget_nextLaddr (env : NetEnv) (c : Call) (af : Sa) : c.SameBudget (c.nextLaddr env af).2 := by
  unfold nextLaddr
  split <;> exact ⟨rfl, rfl, rfl, rfl, rfl, rfl, rfl, rfl⟩

theorem sameBudget_rotateFrom (laddr : Sa) : c.SameBudget (c.rotateFrom env laddr).2 := by
  have hnext := sameBudget_nextLaddr env c laddr
  unfold rotateFrom
  split
  · split
    · rename_i heq
      rw [heq] at hnext
      exact hnext
    · rename_i heq
      rw [heq] at hnext
      exact hnext
  · exact ⟨rfl, rfl, rfl, rfl, rfl, rfl, rfl, rfl⟩

/-- The limit is a matter of the round and of whether the call uses ICE that was not restarted. -/
theorem maxAttemptsFor_congr (hid : d.id = c.id) (hbc : d.bc = c.bc) (hacct : d.acct = c.acct)
    (hstall : d.netMigStall = c.netMigStall) (hrestarted : d.netIceRestarted = c.netIceRestarted) :
    d.maxAttemptsFor g nm env = c.maxAttemptsFor g nm env := by
  have huses : d.callUsesIce g env = c.callUsesIce g env := by
    unfold callUsesIce
    rw [hid, hbc, hacct]
  simp only [maxAttemptsFor, huses, hstall, hrestarted]

theorem SameBudget.maxAttemptsFor (h : c.SameBudget d) (g : Cfg) (nm : Netmon) (env : NetEnv) :
    d.maxAttemptsFor g nm env = c.maxAttemptsFor g nm env :=
  maxAttemptsFor_congr h.id h.bc h.acct h.stall h.restarted

theorem maxAttemptsFor_pos (hmax : 0 < nm.maxAttempts) : 0 < c.maxAttemptsFor g nm env := by
  unfold Call.maxAttemptsFor
  split
  · exact Nat.lt_min.mpr ⟨hmax, by decide⟩
  · split
    · exact Nat.one_pos
    · exact hmax

theorem maxAttemptsFor_le (hmax : 0 < nm.maxAttempts) :
    c.maxAttemptsFor g nm env ≤ c.roundLimit nm.maxAttempts := by
  unfold Call.maxAttemptsFor roundLimit
  split
  · exact le_rfl
  · split
    · exact hmax
    · exact le_rfl

theorem roundLimit_le (max : Nat) : c.roundLimit max ≤ max := by
  unfold roundLimit
  split
  · exact Nat.min_le_left _ _
  · exact le_rfl

/-! ### One attempt -/

@[simp]
theorem offers_report (id : Nat) (what : NetEvent) (err : Option Errno) (attempt : Nat) :
    offers (some env) id (c.report g nm now env what err attempt).out =
      offers (some env) id c.out := by
  simp [report, emit, VoxSdk.offers, SysOut.isOffer]

/-- Giving up costs no offer. -/
@[simp]
theorem failMigration_spec (err : Errno) :
    (c.failMigration g nm now env err).netMigTries = c.netMigTries ∧
      (c.failMigration g nm now env err).netMigStall = c.netMigStall ∧
      (c.failMigration g nm now env err).netMigState = .failed ∧
      ∀ id, offers (some env) id (c.failMigration g nm now env err).out =
        offers (some env) id c.out := by
  simp only [failMigration]
  split
  · refine ⟨rfl, rfl, rfl, fun id => ?_⟩
    simp [closed, emit, setMigState, report, VoxSdk.offers, SysOut.isOffer]
  · refine ⟨rfl, rfl, rfl, fun id => ?_⟩
    simp [emit, setMigState, report, VoxSdk.offers, SysOut.isOffer]

/-- `d` is `c` after an attempt that made `n` offers: only an attempt with room left is deferred. -/
structure Attempted (g : Cfg) (nm : Netmon) (env : NetEnv) (n : Nat) (c d : Call) : Prop where
  offers : offers (some env) c.id d.out = offers (some env) c.id c.out + n
  tries : d.netMigTries = c.netMigTries
  stall : d.netMigStall = c.netMigStall
  state : d.netMigState = .deferred ∧ c.netMigTries < c.maxAttemptsFor g nm env ∨
    d.netMigState = .sent ∨ d.netMigState = .done ∨ d.netMigState = .failed

theorem Attempted.of_same {n m : Nat} (h : Attempted g nm env n d e) (hid : d.id = c.id)
    (htries : d.netMigTries = c.netMigTries) (hstall : d.netMigStall = c.netMigStall)
    (hlimit : d.maxAttemptsFor g nm env = c.maxAttemptsFor g nm env)
    (hout : VoxSdk.offers (some env) c.id d.out = VoxSdk.offers (some env) c.id c.out + m) :
    Attempted g nm env (m + n) c e where
  offers := by rw [← hid, h.offers, hid, hout, Nat.add_assoc]
  tries := h.tries.trans htries
  stall := h.stall.trans hstall
  state := by
    rw [← htries, ← hlimit]
    exact h.state

theorem attempted_offerRestarted : Attempted g nm env 0 c (c.offerRestarted g nm now env) := by
  refine ⟨?_, rfl, rfl, .inr (.inl rfl)⟩
  simp [offerRestarted]

theorem attempted_offerPlain : Attempted g nm env 1 c (c.offerPlain g nm now env) := by
  have hone : VoxSdk.offers (some env) c.id (c.emit (.callResetTransp c.id c.netMigLaddr)).out =
      VoxSdk.offers (some env) c.id c.out + 1 := by
    simp [emit, VoxSdk.offers, SysOut.isOffer]
  have hlimit : (c.emit (.callResetTransp c.id c.netMigLaddr)).maxAttemptsFor g nm env =
      c.maxAttemptsFor g nm env := maxAttemptsFor_congr rfl rfl rfl rfl rfl
  simp only [offerPlain]
  split
  · rename_i err _
    split
    · obtain ⟨htries, hstall, hstate, hout⟩ := @failMigration_spec g nm now env
        (c.emit (.callResetTransp c.id c.netMigLaddr)) err
      exact ⟨(hout c.id).trans hone, htries, hstall, .inr (.inr (.inr hstate))⟩
    · rename_i hroom
      rw [hlimit] at hroom
      exact ⟨hone, rfl, rfl, .inl ⟨rfl, Nat.lt_of_not_le hroom⟩⟩
  · split
    · refine ⟨?_, rfl, rfl, .inr (.inr (.inl rfl))⟩
      rw [offers_report]
      exact (offers_report ..).trans hone
    · exact ⟨(offers_report ..).trans hone, rfl, rfl, .inr (.inl rfl)⟩

theorem reportStale_frame (err : Errno) :
    (c.reportStale g nm now env err).id = c.id ∧
      (c.reportStale g nm now env err).netMigTries = c.netMigTries ∧
      (c.reportStale g nm now env err).netMigStall = c.netMigStall ∧
      (c.reportStale g nm now env err).maxAttemptsFor g nm env = c.maxAttemptsFor g nm env ∧
      VoxSdk.offers (some env) c.id (c.reportStale g nm now env err).out =
        VoxSdk.offers (some env) c.id c.out := by
  unfold reportStale
  split
  · exact ⟨rfl, rfl, rfl, rfl, rfl⟩
  · refine ⟨rfl, rfl, rfl, maxAttemptsFor_congr rfl rfl rfl rfl rfl, ?_⟩
    rw [offers_report]

/-- An attempt makes at most one offer: an ICE restart, or one by `call_reset_transp`. None is made
while a restart of an earlier attempt is still gathering. -/
theorem attempted_offer : ∃ n ≤ 1, Attempted g nm env n c (c.offer g nm now env) := by
  have hcounts : VoxSdk.offers (some env) c.id (c.emit (.iceRestart c.id c.netMigLaddr)).out =
      VoxSdk.offers (some env) c.id c.out + if (env.call c.id).iceRestart.isNone then 1 else 0 := by
    simp [emit, VoxSdk.offers, SysOut.isOffer]
  have hlimit : (c.emit (.iceRestart c.id c.netMigLaddr)).maxAttemptsFor g nm env =
      c.maxAttemptsFor g nm env := maxAttemptsFor_congr rfl rfl rfl rfl rfl
  simp only [offer]
  split
  · split
    · rename_i hstarted
      replace hstarted : (env.call c.id).iceRestart = none := hstarted
      rw [hstarted] at hcounts
      exact ⟨1, le_rfl, attempted_offerRestarted.of_same rfl rfl rfl hlimit hcounts⟩
    · rename_i halready
      replace halready : (env.call c.id).iceRestart = some .already := halready
      rw [halready] at hcounts
      exact ⟨0, Nat.zero_le 1, attempted_offerRestarted.of_same rfl rfl rfl hlimit hcounts⟩
    · rename_i hnoent
      replace hnoent : (env.call c.id).iceRestart = some .noent := hnoent
      rw [hnoent] at hcounts
      exact ⟨1, le_rfl, attempted_offerPlain.of_same rfl rfl rfl hlimit hcounts⟩
    · rename_i err _ _ herr
      replace herr : (env.call c.id).iceRestart = some err := herr
      rw [herr] at hcounts
      obtain ⟨hid, htries, hstall, hlimit', hout⟩ :=
        @reportStale_frame g nm now env (c.emit (.iceRestart c.id c.netMigLaddr)) err
      exact ⟨1, le_rfl, attempted_offerPlain.of_same hid htries hstall (hlimit'.trans hlimit)
        (hout.trans hcounts)⟩
  · exact ⟨1, le_rfl, attempted_offerPlain⟩

/-! ### The functions that offer -/

/-- `d` is `c` after work that made `n` offers, with `o` made in the round before: no more than the
limit allows, and what is left is budgeted. -/
structure Spent (g : Cfg) (nm : Netmon) (env : NetEnv) (o n : Nat) (c d : Call) : Prop where
  offers : offers (some env) c.id d.out = offers (some env) c.id c.out + n
  limit : 0 < n → o + n ≤ c.maxAttemptsFor g nm env
  budgeted : d.Budgeted nm.maxAttempts (o + n)

theorem Spent.of_same {n : Nat} (h : Spent g nm env o n d e) (hsame : c.SameBudget d) :
    Spent g nm env o n c e where
  offers := by
    have hoffers := h.offers
    rwa [hsame.id, hsame.out] at hoffers
  limit := fun hn => hsame.maxAttemptsFor g nm env ▸ h.limit hn
  budgeted := h.budgeted

/-- A call that may not spend anything any more. -/
theorem budgeted_of_over {max : Nat} (hle : o ≤ c.netMigTries)
    (hstate : c.netMigState = .idle ∨ c.netMigState = .sent ∨ c.netMigState = .done ∨
      c.netMigState = .failed) : c.Budgeted max o := by
  rcases hstate with h | h | h | h <;> refine ⟨hle, ?_, ?_, ?_⟩ <;> simp [h]

section

variable (hmax : nm.maxAttempts < 2 ^ 32)

include hmax

/-- An offer that is sent has room for it, or waits for the dialog. -/
theorem spent_sendMigration (hbc : c.bc = true) (hle : o ≤ c.netMigTries)
    (htries : c.netMigTries < nm.maxAttempts) (hroom : o < c.maxAttemptsFor g nm env) :
    ∃ n, Spent g nm env o n c (c.sendMigration g nm now env) := by
  have hpos : 0 < nm.maxAttempts := Nat.zero_lt_of_lt htries
  have hround : o < c.roundLimit nm.maxAttempts := hroom.trans_le (maxAttemptsFor_le hpos)
  unfold sendMigration
  rw [if_neg (by simp [hbc])]
  split
  · have hwaits (d : Call) (hstate : d.netMigState = .deferred) (hsame : d.netMigTries = c.netMigTries)
        (hstall : d.netMigStall = c.netMigStall) : d.Budgeted nm.maxAttempts o := by
      refine ⟨hsame ▸ hle, ?_, fun _ => hsame ▸ htries, fun _ => ?_⟩
      · simp [hstate]
      · rwa [roundLimit, hstall]
    refine ⟨0, ?_⟩
    split
    · rename_i hstate
      exact ⟨rfl, fun h => absurd h (Nat.lt_irrefl 0), hwaits c hstate rfl rfl⟩
    · refine ⟨?_, fun h => absurd h (Nat.lt_irrefl 0), hwaits _ rfl rfl rfl⟩
      rw [offers_report]
      rfl
  · have hsame := @sameBudget_laddrRemember
      { c with netRxAtMig := c.rxPackets env, netMigTries := u32 (c.netMigTries + 1) } c.netMigLaddr
    have hcount : (c.countOffer env).netMigTries = c.netMigTries + 1 :=
      hsame.tries.trans (Nat.mod_eq_of_lt (by omega))
    have hlimit : (c.countOffer env).maxAttemptsFor g nm env = c.maxAttemptsFor g nm env :=
      (hsame.maxAttemptsFor g nm env).trans (maxAttemptsFor_congr rfl rfl rfl rfl rfl)
    obtain ⟨n, hn, hattempt⟩ := @attempted_offer g nm now env (c.countOffer env)
    refine ⟨n, ?_, fun _ => by omega, ?_⟩
    · have hoffers := hattempt.offers
      rwa [show (c.countOffer env).id = c.id from hsame.id,
        show (c.countOffer env).out = c.out from hsame.out] at hoffers
    · have htries' := hattempt.tries.trans hcount
      rcases hattempt.state with ⟨hdeferred, hleft⟩ | hover
      · rw [hcount, hlimit] at hleft
        have hstall : ((c.countOffer env).offer g nm now env).roundLimit nm.maxAttempts =
            c.roundLimit nm.maxAttempts := by
          simp only [roundLimit, hattempt.stall.trans hsame.stall]
        have hround' : c.maxAttemptsFor g nm env ≤ c.roundLimit nm.maxAttempts := maxAttemptsFor_le hpos
        refine ⟨by omega, by simp [hdeferred], fun _ => ?_, fun _ => by omega⟩
        have hle' := @roundLimit_le c nm.maxAttempts
        omega
      · exact budgeted_of_over (by omega) (.inr hover)

theorem spent_retryMigration (hbc : c.bc = true) (hle : o ≤ c.netMigTries)
    (htries : c.netMigTries < nm.maxAttempts) (hroom : o < c.maxAttemptsFor g nm env) :
    ∃ n, Spent g nm env o n c (c.retryMigration g nm now env) := by
  have hsend {d : Call} (h : c.SameBudget d) :
      ∃ n, Spent g nm env o n c (d.sendMigration g nm now env) := by
    obtain ⟨n, hn⟩ := @spent_sendMigration g nm now env d o hmax (h.bc.trans hbc) (h.tries ▸ hle)
      (h.tries ▸ htries) (h.maxAttemptsFor g nm env ▸ hroom)
    exact ⟨n, hn.of_same h⟩
  have hremember := @sameBudget_laddrRemember c c.netMigLaddr
  simp only [retryMigration]
  split
  · have hnext := hremember.trans
      (sameBudget_nextLaddr env _ (c.laddrRemember c.netMigLaddr).netMigLaddr)
    split
    · rename_i heq
      rw [heq] at hnext
      exact hsend ⟨hnext.id, hnext.bc, hnext.acct, hnext.state, hnext.tries, hnext.stall,
        hnext.restarted, hnext.out⟩
    · rename_i heq
      rw [heq] at hnext
      exact hsend hnext
  · exact hsend hremember

/-- A migration that starts with nothing offered offers once, or waits, or finds nothing to do. -/
theorem spent_startMigration (hbc : c.bc = true) (htries : (c.claim nm now).netMigTries < nm.maxAttempts) :
    ∃ n, Spent g nm env 0 n (c.claim nm now) (c.startMigration g nm now env) := by
  have hpos : 0 < nm.maxAttempts := Nat.zero_lt_of_lt htries
  have hclaimed : (c.claim nm now).bc = true := (claim_frame nm now c).2.2.1.trans hbc
  simp only [startMigration, hbc]
  generalize c.claim nm now = d at htries hclaimed
  have hsend {e : Call} (h : d.SameBudget e) :
      ∃ n, Spent g nm env 0 n d (e.sendMigration g nm now env) := by
    obtain ⟨n, hn⟩ := @spent_sendMigration g nm now env e 0 hmax (h.bc.trans hclaimed)
      (Nat.zero_le _) (h.tries ▸ htries) (maxAttemptsFor_pos hpos)
    exact ⟨n, hn.of_same h⟩
  split
  · contradiction
  · split
    · refine ⟨0, ?_, fun h => absurd h (Nat.lt_irrefl 0), ?_⟩
      · unfold waitForAddr
        split
        · rfl
        · rw [offers_report]
          rfl
      · have hwaits {e : Call} (hstate : e.netMigState = .waitAddr)
            (hsame : e.netMigTries = d.netMigTries) : e.Budgeted nm.maxAttempts (0 + 0) :=
          ⟨Nat.zero_le _, fun _ => rfl, fun _ => hsame ▸ htries, by simp [hstate]⟩
        unfold waitForAddr
        split
        · exact hwaits ‹_› rfl
        · exact hwaits rfl rfl
    · rename_i laddr _
      have hrotate := @sameBudget_rotateFrom env d laddr
      simp only [migrateTo]
      split
      · refine ⟨0, ?_, fun h => absurd h (Nat.lt_irrefl 0), budgeted_of_over (Nat.zero_le _) (.inl rfl)⟩
        simp [setMigState, hrotate.out]
      · exact hsend ⟨hrotate.id, hrotate.bc, hrotate.acct, hrotate.state, hrotate.tries,
          hrotate.stall, hrotate.restarted, hrotate.out⟩

/-- Judging a call of the generation: an offer is measured, and a deferred one has room unless the
limit has dropped since. -/
theorem spent_verify (hpos : 0 < nm.maxAttempts) (hbc : c.bc = true) (hgen : c.netMigGen = nm.gen)
    (hbudget : c.Budgeted nm.maxAttempts o)
    (hdeferred : c.netMigState = .deferred → (env.call c.id).refreshAllowed = true →
      o < c.maxAttemptsFor g nm env) :
    ∃ n, Spent g nm env o n c (c.verify g nm now env) ∧
      (c.netMigState = .done ∨ c.netMigState = .failed → n = 0) := by
  have hidle {d : Call} (hout : offers (some env) c.id d.out = offers (some env) c.id c.out)
      (hd : d.Budgeted nm.maxAttempts o) : ∃ n, Spent g nm env o n c d ∧
        (c.netMigState = .done ∨ c.netMigState = .failed → n = 0) :=
    ⟨0, ⟨hout, fun h => absurd h (Nat.lt_irrefl 0), hd⟩, fun _ => rfl⟩
  have hfails {d : Call} (err : Errno) (hout : d.out = c.out) (htries : o ≤ d.netMigTries) :
      ∃ n, Spent g nm env o n c (d.failMigration g nm now env err) ∧
        (c.netMigState = .done ∨ c.netMigState = .failed → n = 0) := by
    obtain ⟨htries', -, hstate, hout'⟩ := @failMigration_spec g nm now env d err
    exact hidle ((hout' c.id).trans (by rw [hout]))
      (budgeted_of_over (htries' ▸ htries) (.inr (.inr (.inr hstate))))
  unfold verify
  rw [if_neg (not_not.mpr hgen), if_neg (by simp [hbc])]
  split
  · rename_i hstate
    obtain rfl := hbudget.first (.inl hstate)
    have hclaim : c.claim nm now = c := if_pos hgen
    have hstart := @spent_startMigration g nm now env c hmax hbc
      (by rw [hclaim]; exact hbudget.room (.inl hstate))
    rw [hclaim] at hstart
    obtain ⟨n, hn⟩ := hstart
    exact ⟨n, hn, by simp [hstate]⟩
  · rename_i hstate
    obtain rfl := hbudget.first (.inr hstate)
    have hroom := hbudget.room (.inr (.inl hstate))
    have hcharge : c.charge.netMigTries = c.netMigTries + 1 := Nat.mod_eq_of_lt (by omega)
    simp only
    split
    · exact hfails _ rfl (Nat.zero_le _)
    · rename_i hleft
      have hclaim : c.charge.claim nm now = c.charge := if_pos hgen
      have hstart := @spent_startMigration g nm now env c.charge hmax hbc
        (by rw [hclaim]; exact Nat.lt_of_not_le hleft)
      rw [hclaim] at hstart
      obtain ⟨n, hn⟩ := hstart
      have hlimit : c.charge.maxAttemptsFor g nm env = c.maxAttemptsFor g nm env :=
        maxAttemptsFor_congr rfl rfl rfl rfl rfl
      exact ⟨n, ⟨hn.offers, hlimit ▸ hn.limit, hn.budgeted⟩, by simp [hstate]⟩
  · rename_i hstate
    have hroom := hbudget.room (.inr (.inr hstate))
    split
    · rename_i hallowed
      obtain ⟨n, hn⟩ := @spent_sendMigration g nm now env c o hmax hbc hbudget.offers hroom
        (hdeferred hstate hallowed)
      exact ⟨n, hn, by simp [hstate]⟩
    · have hcharge : c.charge.netMigTries = c.netMigTries + 1 := Nat.mod_eq_of_lt (by omega)
      have hle := hbudget.offers
      simp only
      split
      · exact hfails _ rfl (by omega)
      · rename_i hleft
        refine hidle rfl ⟨by omega, ?_, fun _ => Nat.lt_of_not_le hleft, hbudget.deferred⟩
        intro h
        have hsame : c.charge.netMigState = c.netMigState := rfl
        simp [hsame, hstate] at h
  · rename_i hstate
    have hwait : ∃ n, Spent g nm env o n c (c.judge g nm now env) := by
      have hover {d : Call} (hout : offers (some env) c.id d.out = offers (some env) c.id c.out)
          (hd : d.Budgeted nm.maxAttempts o) : ∃ n, Spent g nm env o n c d := by
        obtain ⟨n, hn, -⟩ := hidle hout hd
        exact ⟨n, hn⟩
      unfold judge
      split
      · exact hover rfl hbudget
      · split
        · exact hover (offers_report ..) (budgeted_of_over hbudget.offers (.inr (.inr (.inl rfl))))
        · split
          · exact hover (offers_report ..) (budgeted_of_over hbudget.offers (.inr (.inr (.inl rfl))))
          · split
            · obtain ⟨n, hn, -⟩ := hfails (d := c) .timedout rfl hbudget.offers
              exact ⟨n, hn⟩
            · rename_i hleft
              have hleft := Nat.lt_of_not_le hleft
              have hle := hbudget.offers
              exact spent_retryMigration hmax hbc hle
                (hleft.trans_le ((maxAttemptsFor_le hpos).trans (roundLimit_le _))) (by omega)
    obtain ⟨n, hn⟩ := hwait
    exact ⟨n, hn, by simp [hstate]⟩
  · exact hidle rfl hbudget
  · exact hidle rfl hbudget
  · exact hidle rfl hbudget

end

theorem spent_failPending (hbudget : c.Budgeted nm.maxAttempts o) (err : Errno) :
    Spent g nm env o 0 c (c.failPending g nm now env err) := by
  unfold failPending
  split
  · exact ⟨rfl, fun h => absurd h (Nat.lt_irrefl 0), hbudget⟩
  · obtain ⟨htries, -, hstate, hout⟩ := @failMigration_spec g nm now env
      { c with netMigStart := if c.netMigStart = 0 then nm.handoverStart else c.netMigStart } err
    exact ⟨hout c.id, fun h => absurd h (Nat.lt_irrefl 0),
      budgeted_of_over (hbudget.offers.trans_eq htries.symm) (.inr (.inr (.inr hstate)))⟩

/-- A call stamped for a generation starts from nothing. -/
theorem claim_spec (hgen : c.netMigGen ≠ nm.gen) :
    (c.claim nm now).id = c.id ∧ (c.claim nm now).bc = c.bc ∧ (c.claim nm now).acct = c.acct ∧
      (c.claim nm now).netMigTries = 0 ∧ (c.claim nm now).netMigStall = false ∧
      (c.claim nm now).netIceRestarted = false ∧ (c.claim nm now).out = c.out := by
  unfold claim
  rw [if_neg hgen]
  exact ⟨rfl, rfl, rfl, rfl, rfl, rfl, rfl⟩

theorem Budgeted.idle {max : Nat} (h : c.Budgeted max o) : c.idle.Budgeted max o :=
  ⟨h.offers, h.first, h.room, h.deferred⟩

/-- A stalled counter spends nothing, and a repair starts a round. -/
theorem budgeted_stallRepair {max : Nat} (hmax : 0 < max) (h : c.Budgeted max o) (packets : Nat)
    (setupPending : Bool) :
    (c.stallRepair g nm now env packets setupPending).1.Budgeted max
      (if (c.stallRepair g nm now env packets setupPending).2 then 0 else o) := by
  have htick : (c.stallTick g now env packets setupPending).1.Budgeted max o := by
    unfold stallTick stallClear
    repeat' split
    all_goals exact ⟨h.offers, h.first, h.room, h.deferred⟩
  obtain heq | ⟨-, heq⟩ := stallRepair_cases g nm now env c packets setupPending
  · rw [heq]
    exact htick
  · rw [heq]
    exact ⟨Nat.zero_le _, fun _ => rfl, fun _ => hmax, fun h => by cases h⟩

end Call

end VoxSdk
