import VoxSdk.Proof.HandlerLemmas

/-!
# What a push-token update leaves behind

`set_push_token_fn` gives the old token up before it has a copy of the new one, and asks whether the Contact
parameters fit only when the new one is in place.
-/

namespace VoxSdk

namespace Account

variable {a : Account} {size : Nat} {token : Option CStr} {dupOk : Bool}

/-- What `push_param` takes of the Contact parameters. -/
def pushParamLen (a : Account) : Nat :=
  match a.cfg.pushParam with
  | some (c :: param) => 10 + (c :: param).length
  | _ => 0

/-- The Contact parameters of the token, and the end of the string, fit `VOX_PUSH_PARAMS_BUFSZ`. -/
def TokenFits (token : Option CStr) (a : Account) : Prop :=
  ∀ provider ∈ providerStr a.cfg.pushProvider, ∀ text ∈ token, text ≠ [] →
    12 + provider.length + 9 + text.length + a.pushParamLen < pushParamsBufsz

/-- An error changes nothing and registers nothing; OK means that the token is in place. -/
def UpdatesToken (before : Account) (token : Option CStr) (after : Account) (err : Int) : Prop :=
  (err ≠ 0 → after.pushToken = before.pushToken ∧
      (∀ size, after.buildPushContactParams size = before.buildPushContactParams size) ∧
      ∀ wanted, .uaRegister wanted ∉ after.out) ∧
    (err = 0 → after.pushToken = token)

/-- The parameters do not fit the buffer: the only way for them to be refused. -/
theorem buildPushContactParams_eq_none_iff :
    a.buildPushContactParams size = none ↔
      ∃ provider ∈ providerStr a.cfg.pushProvider, ∃ text ∈ a.pushToken, text ≠ [] ∧
        size ≤ 12 + provider.length + 9 + text.length + a.pushParamLen := by
  unfold buildPushContactParams pushParamLen
  cases providerStr a.cfg.pushProvider with
  | none => simp
  | some provider =>
      cases a.pushToken with
      | none => simp
      | some text =>
          cases text with
          | nil => simp
          | cons c text =>
              cases a.cfg.pushParam with
              | none => simp; omega
              | some param => cases param <;> simp <;> omega

theorem buildPushContactParams_storePushToken (h : token = none ∨ dupOk = true) :
    (a.storePushToken token dupOk).buildPushContactParams pushParamsBufsz = none ↔ ¬a.TokenFits token := by
  have htoken : (a.storePushToken token dupOk).pushToken = token := by
    rcases h with rfl | rfl
    · cases dupOk <;> rfl
    · rfl
  rw [buildPushContactParams_eq_none_iff, htoken, TokenFits]
  push Not
  rfl

/-- Without memory for the copy the account has no token, and parameters of nothing fit. -/
theorem buildPushContactParams_storePushToken_false :
    (a.storePushToken token false).buildPushContactParams pushParamsBufsz ≠ none := by
  intro h
  obtain ⟨provider, -, text, htext, -⟩ := buildPushContactParams_eq_none_iff.mp h
  cases htext

/-! ### What the call returns -/

theorem ctxResult_emit (err : VoxError) : (a.emit (.result err)).ctxResult = err := by
  unfold ctxResult emit
  rw [List.getLast?_concat]

theorem postCopied_pushToken (ev : RegEvent) (reason : ErrStr) :
    (a.postCopied ev reason).pushToken = a.pushToken := by
  unfold postCopied regEvPrepare
  by_cases hst : ev.state ≠ .reconnecting
  · rw [if_pos hst]
    rfl
  · rw [if_neg hst]
    cases a.sameReport ev.error <;> rfl

theorem uaRegister_pushToken (reporting : Bool) : (a.uaRegister reporting).pushToken = a.pushToken := by
  unfold uaRegister beventRegistering
  cases reporting with
  | false => rfl
  | true =>
      simp only [if_true]
      split
      · exact postCopied_pushToken _ _
      · rfl

theorem setPushTokenFn_state (reporting : Bool) (h : a.ua = false) :
    a.setPushTokenFn token dupOk reporting = a.emit (.result .state) :=
  if_pos (by rw [h]; rfl)

/-- Too long: the answer is an error, and the token is the new one. -/
theorem setPushTokenFn_inval (reporting : Bool) (hua : a.ua = true)
    (h : (a.storePushToken token dupOk).buildPushContactParams pushParamsBufsz = none) :
    a.setPushTokenFn token dupOk reporting = (a.storePushToken token dupOk).emit (.result .inval) := by
  unfold setPushTokenFn
  simp only [hua, h, Bool.not_true, Option.isNone_none, Bool.false_eq_true, if_false, if_true]

theorem setPushTokenFn_ok (token : Option CStr) (dupOk reporting : Bool) (hua : a.ua = true)
    (h : (a.storePushToken token dupOk).buildPushContactParams pushParamsBufsz ≠ none) :
    (a.setPushTokenFn token dupOk reporting).ctxResult = .ok ∧
      (a.setPushTokenFn token dupOk reporting).pushToken = (a.storePushToken token dupOk).pushToken := by
  obtain ⟨params, hparams⟩ := Option.ne_none_iff_exists'.mp h
  unfold setPushTokenFn
  simp only [hua, hparams, Bool.not_true, Option.isNone_some, Bool.false_eq_true, if_false]
  cases (a.storePushToken token dupOk).registerDeferred with
  | true => exact ⟨ctxResult_emit _, rfl⟩
  | false => exact ⟨ctxResult_emit _, uaRegister_pushToken reporting⟩

/-! ### When an update does what it says -/

theorem not_updatesToken_of_lost (hua : a.ua = true) (reporting : Bool) (hne : token ≠ none) :
    ¬UpdatesToken a.idle token (a.idle.voxsdkAccountSetPushToken 0 token false reporting).1
      (a.idle.voxsdkAccountSetPushToken 0 token false reporting).2 := by
  obtain ⟨hresult, htoken⟩ := setPushTokenFn_ok (a := a.idle) token false reporting hua
    buildPushContactParams_storePushToken_false
  intro h
  have hcode : (a.idle.voxsdkAccountSetPushToken 0 token false reporting).2 = 0 := congrArg VoxError.code hresult
  exact hne ((h.2 hcode).symm.trans htoken)

theorem updatesToken_of_fits (hua : a.ua = true) (reporting : Bool) (hdup : token = none ∨ dupOk = true)
    (hfits : a.TokenFits token) :
    UpdatesToken a.idle token (a.idle.voxsdkAccountSetPushToken 0 token dupOk reporting).1
      (a.idle.voxsdkAccountSetPushToken 0 token dupOk reporting).2 := by
  have hparams : (a.idle.storePushToken token dupOk).buildPushContactParams pushParamsBufsz ≠ none := fun h =>
    (buildPushContactParams_storePushToken hdup).mp h hfits
  obtain ⟨hresult, htoken⟩ := setPushTokenFn_ok (a := a.idle) token dupOk reporting hua hparams
  have hcode : (a.idle.voxsdkAccountSetPushToken 0 token dupOk reporting).2 = 0 := congrArg VoxError.code hresult
  refine ⟨fun h => absurd hcode h, fun _ => ?_⟩
  refine htoken.trans ?_
  rcases hdup with rfl | rfl
  · cases dupOk <;> rfl
  · rfl

theorem updatesToken_iff_of_tooLong (hua : a.ua = true) (reporting : Bool) (hdup : token = none ∨ dupOk = true)
    (hlong : ¬a.TokenFits token) :
    UpdatesToken a.idle token (a.idle.voxsdkAccountSetPushToken 0 token dupOk reporting).1
        (a.idle.voxsdkAccountSetPushToken 0 token dupOk reporting).2 ↔
      token = a.pushToken := by
  have hcall : a.idle.voxsdkAccountSetPushToken 0 token dupOk reporting =
      ((a.idle.storePushToken token dupOk).emit (.result .inval), -1) := by
    have hparams := (buildPushContactParams_storePushToken (a := a.idle) hdup).mpr hlong
    change (a.idle.setPushTokenFn token dupOk reporting, VoxError.code (ctxResult _)) = _
    rw [setPushTokenFn_inval (a := a.idle) reporting hua hparams, ctxResult_emit]
    rfl
  have hstored : a.idle.storePushToken token dupOk = { a.idle with pushToken := token } := by
    rcases hdup with rfl | rfl
    · cases dupOk <;> rfl
    · rfl
  rw [hcall, hstored]
  constructor
  · intro h
    exact (h.1 (by decide : (-1 : Int) ≠ 0)).1
  · rintro rfl
    refine ⟨fun _ => ⟨rfl, fun _ => rfl, ?_⟩, fun h => absurd h (by decide : (-1 : Int) ≠ 0)⟩
    intro wanted hmem
    cases List.mem_singleton.mp hmem

/-- **An update changes nothing when it fails and puts the token in place when it succeeds, unless the copy of
the token finds no memory or its parameters do not fit.** -/
theorem voxsdkAccountSetPushToken_iff (a : Account) (dispatch : Int) (token : Option CStr)
    (dupOk reporting : Bool) :
    UpdatesToken a.idle token (a.idle.voxsdkAccountSetPushToken dispatch token dupOk reporting).1
        (a.idle.voxsdkAccountSetPushToken dispatch token dupOk reporting).2 ↔
      dispatch ≠ 0 ∨ a.ua = false ∨
        (token = none ∨ dupOk = true) ∧ (a.TokenFits token ∨ token = a.pushToken) := by
  by_cases hdispatch : dispatch = 0
  · subst hdispatch
    cases hua : a.ua with
    | false =>
        have hcall : a.idle.voxsdkAccountSetPushToken 0 token dupOk reporting = (a.idle.emit (.result .state), -3) := by
          change (a.idle.setPushTokenFn token dupOk reporting, VoxError.code (ctxResult _)) = _
          rw [setPushTokenFn_state (a := a.idle) reporting hua, ctxResult_emit]
          rfl
        rw [hcall]
        refine iff_of_true ⟨fun _ => ⟨rfl, fun _ => rfl, ?_⟩, fun h => absurd h (by decide : (-3 : Int) ≠ 0)⟩
          (.inr (.inl rfl))
        intro wanted hmem
        cases List.mem_singleton.mp hmem
    | true =>
        simp only [ne_eq, not_true_eq_false, Bool.true_eq_false, false_or]
        by_cases hdup : token = none ∨ dupOk = true
        · by_cases hfits : a.TokenFits token
          · exact iff_of_true (updatesToken_of_fits hua reporting hdup hfits) ⟨hdup, .inl hfits⟩
          · rw [updatesToken_iff_of_tooLong hua reporting hdup hfits]
            simp [hdup, hfits]
        · push Not at hdup
          obtain ⟨hne, hfalse⟩ := hdup
          rw [Bool.eq_false_iff.mpr hfalse]
          refine iff_of_false (not_updatesToken_of_lost hua reporting hne) ?_
          rintro ⟨rfl | h, -⟩
          · exact hne rfl
          · cases h
  · rw [show a.idle.voxsdkAccountSetPushToken dispatch token dupOk reporting = (a.idle, dispatch) from if_pos hdispatch]
    refine iff_of_true ⟨fun _ => ⟨rfl, fun _ => rfl, ?_⟩, fun h => absurd h hdispatch⟩ (.inl hdispatch)
    intro wanted hmem
    cases hmem

/-- An account with a token for FCM and one with no memory: the update answers INVAL with the old token gone. -/
theorem setPushToken_loses :
    ¬∀ (a : Account) (dispatch : Int) (token : Option CStr) (dupOk reporting : Bool),
      UpdatesToken a.idle token (a.idle.voxsdkAccountSetPushToken dispatch token dupOk reporting).1
        (a.idle.voxsdkAccountSetPushToken dispatch token dupOk reporting).2 := by
  intro h
  let cfg : AccountCfg :=
    { outbound := none, outboundProxy := none, serverUrl := none, serverHost := none, serverPort := 0
      parsedHost := [], parsedPort := 5060, parsedTransport := .udp, iceEnabled := false, pushProvider := .fcm
      pushParam := none }
  let a := Account.create 0 cfg (some ['t'])
  have hlong : ¬a.TokenFits (some (List.replicate 1024 'x')) := by
    intro hfits
    have hlen := hfits "fcm".toList rfl _ rfl (List.ne_nil_of_length_pos (by rw [List.length_replicate]; decide))
    rw [List.length_replicate] at hlen
    exact absurd hlen (by decide)
  have htoken := (updatesToken_iff_of_tooLong rfl false (.inr rfl) hlong).mp (h a 0 _ true false)
  have hlen := congrArg (Option.map List.length) htoken
  rw [Option.map_some, List.length_replicate] at hlen
  cases hlen

end Account

end VoxSdk
