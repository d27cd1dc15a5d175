import VoxSdk.QevClone

/-!
# What queued events say

An event says what its producer was given, cut to what the buffer holds. Its strings are packed into its own
buffer, apart from those an account or a call wrapper keeps, and the switch of `qev_clone` leaves none of them out.
-/

namespace VoxSdk

/-! ### Events -/

namespace Event

variable {σ τ υ : Type}

theorem map_congr {f g : σ → τ} {ev : Event σ} (h : ∀ s ∈ ev.strings, f s = g s) : ev.map f = ev.map g := by
  cases ev <;> simp only [strings, List.forall_mem_cons, List.not_mem_nil, IsEmpty.forall_iff, implies_true,
    and_true] at h <;> simp only [map, h]

@[simp]
theorem map_map (f : σ → τ) (g : τ → υ) (ev : Event σ) : (ev.map f).map g = ev.map (g ∘ f) := by
  cases ev <;> rfl

@[simp]
theorem strings_map (f : σ → τ) (ev : Event σ) : (ev.map f).strings = ev.strings.map f := by
  cases ev <;> rfl

end Event

/-! ### What a buffer holds -/

/-- What an array of `size` bytes holds of a text. -/
def fitted (size : Nat) (text : List Char) : CStr := Text.upTo nul (text.take (size - 1))

theorem length_zeroed : zeroed.length = bufSize := List.length_replicate

theorem length_strNcpyAt {off : Nat} {buf : List Char} (hbuf : buf.length = bufSize) (hoff : off ≤ bufSize)
    (text : CStr) : (strNcpyAt off text buf).length = bufSize := by
  unfold strNcpyAt
  split
  · exact hbuf
  · rw [Block.length_put, hbuf]
    rw [List.length_append, List.takeD_length, List.length_singleton]
    omega

theorem textAt_strNcpyAt {off : Nat} {buf : List Char} (hbuf : buf.length = bufSize) (hoff : off < bufSize)
    (text : CStr) : Block.textAt nul off (strNcpyAt off text buf) = some (fitted (bufSize - off) text) := by
  rw [strNcpyAt, if_neg (by omega), Block.textAt_put (by omega), Block.upTo_takeD, fitted]

theorem length_memcpyAt {off : Nat} {buf : List Char} (hbuf : buf.length = bufSize) (hoff : off < bufSize)
    (data : List Char) : (memcpyAt off data buf).length = bufSize := by
  rw [memcpyAt, Block.length_put, hbuf]
  rw [List.length_append, List.length_take, List.length_singleton]
  omega

theorem textAt_memcpyAt {off : Nat} {buf : List Char} (hbuf : buf.length = bufSize) (hoff : off < bufSize)
    (data : List Char) : Block.textAt nul off (memcpyAt off data buf) = some (fitted (bufSize - off) data) := by
  rw [memcpyAt, Block.textAt_put (by omega), fitted]

theorem length_fitted_le_min (size : Nat) (text : List Char) :
    (fitted size text).length ≤ min text.length (size - 1) := by
  calc
    (fitted size text).length ≤ (text.take (size - 1)).length := (List.takeWhile_sublist _).length_le
    _ = min text.length (size - 1) := by rw [List.length_take, Nat.min_comm]

section Behind

variable {off k : Nat} {buf : List Char} {t : CStr}

/-- What is packed behind a text leaves it as it is. -/
theorem textAt_strNcpyAt_of_lt (h : Block.textAt nul off buf = some t) (hk : off + t.length < k)
    (hlen : buf.length = bufSize) (hroom : k ≤ bufSize) (text : CStr) :
    Block.textAt nul off (strNcpyAt k text buf) = some t := by
  unfold strNcpyAt
  split
  · exact h
  · exact Block.textAt_put_of_lt h hk (by omega)

theorem textAt_memcpyAt_of_lt (h : Block.textAt nul off buf = some t) (hk : off + t.length < k)
    (hlen : buf.length = bufSize) (hroom : k ≤ bufSize) (data : List Char) :
    Block.textAt nul off (memcpyAt k data buf) = some t :=
  Block.textAt_put_of_lt h hk (by omega)

end Behind

/-! ### What producers queue -/

namespace Producer

/-- The texts of a MESSAGE, each from the place where its string begins. -/
def saidAt (off : Nat) (data : Option (List Char)) : Option CStr :=
  if off < bufSize then data.map (fitted (bufSize - off)) else none

/-- Where the string behind one of a MESSAGE begins. -/
def nextOff (off : Nat) (data : Option (List Char)) : Nat :=
  if off < bufSize then (data.map fun d => off + (min d.length (bufSize - off - 1) + 1)).getD off else off

/-- What the event says: the producer's texts, cut to what the buffer holds, and what is kept elsewhere as it
is now. -/
def content (m : EventMem) : Producer → Event (Option CStr)
  | log msg len => .log (some (if 0 < len ∧ len < bufSize then Text.upTo nul (msg.take len) else fitted bufSize msg))
  | registrarWarning text => .registrarWarning (some (fitted bufSize text))
  | regState account ev =>
      .regState account ev.state ev.error ev.retryAttempt ev.retryDelayMs
        (match ev.errorStr with
        | .null => none
        | .acct => account.bind m.regErrorStr
        | .buf text => some (fitted bufSize text))
  | incomingCall account call peer => .incomingCall account call (peer.map (fitted bufSize)) none
  | callState account call state => .callState account call state .ok none
  | callClosed c globalMenc =>
      .callState (c.account.map Prod.fst) (c.call.map Prod.fst) c.state c.error
        ((c.told globalMenc).map (fitted bufSize))
  | callDtmf call digit => .callDtmf call digit
  | sdpNegotiation call codec menc localSdp remoteSdp =>
      .sdpNegotiation (some call) (if localSdp = [] then none else some (m.localSdp call))
        (if remoteSdp = [] then none else some (m.remoteSdp call)) (codec.map (fitted bufSize))
        (some (fitted (bufSize - QueuedEvent.cryptoOff codec) (QueuedEvent.cryptoName menc)))
  | sipTrace tx tp peer pkt now =>
      let tn := QueuedEvent.transpName tp
      let remote := (peer.map (strNcpy 64)).getD []
      .sipTrace (if tx then .tx else .rx) (some (fitted bufSize tn))
        (some (fitted (bufSize - (tn.length + 1)) remote))
        (some (fitted (bufSize - (tn.length + 1 + (remote.length + 1))) pkt)) (now * 1000)
  | mediaStats call s => .mediaStats call { s with codecName := none } (s.codecName.map (fitted bufSize))
  | qualityAlert call a => .qualityAlert call a
  | transferRequest account call text =>
      let tr := Transfers.report call text
      .transferRequest account tr.call (text.map (fitted bufSize)) tr.hasReplaces tr.autoFollowed
  | transferFailed account call reason => .transferFailed account call (reason.map (fitted bufSize))
  | mwi account counts body => .mwi account counts (body.map (fitted bufSize))
  | message account peer ctype body =>
      .message account (saidAt 0 peer) (saidAt (nextOff (nextOff 0 peer) ctype) body)
        (saidAt (nextOff 0 peer) ctype)
  | presenceState uri status => .presenceState none (uri.map (fitted bufSize)) status
  | network r =>
      .network r.event r.call r.account (some (fitted bufSize r.localAddr)) r.attempt r.maxAttempts r.elapsedMs
        r.ice r.error

/-- The codec name of an SDP event leaves room for another text behind it. -/
def Fits : Producer → Prop
  | sdpNegotiation _ codec _ _ _ => ∀ name ∈ codec, name.length + 1 < bufSize
  | _ => True

/-- The wrapper whose SDP an SDP event points to is not freed. -/
def Alive (m : EventMem) : Producer → Prop
  | sdpNegotiation call _ _ _ _ => 0 < m.refs call
  | _ => True

/-- The call of an SDP event. -/
def sdpCall : Producer → Option Nat
  | sdpNegotiation call _ _ _ _ => some call
  | _ => none

/-- The account to whose `reg_error_str` the event points. -/
def borrowed : Producer → Option Nat
  | regState account ev => if ev.errorStr = .acct then account else none
  | _ => none

theorem borrowed_regState (account : Option Nat) (ev : RegEvent) :
    (regState account ev).borrowed = if ev.errorStr = .acct then account else none := rfl

end Producer

/-- Where a string of an event in the block `o` leads: into its buffer, or to what `acct` or `call` keeps. -/
inductive CharPtr.Packed (o : Nat) (acct call : Option Nat) : CharPtr → Prop where
  | null : Packed o acct call .null
  | buf {off : Nat} : off < bufSize → Packed o acct call (.buf o off)
  | regErrorStr {id : Nat} : acct = some id → Packed o acct call (.regErrorStr id)
  | localSdp {id : Nat} : call = some id → Packed o acct call (.localSdp id)
  | remoteSdp {id : Nat} : call = some id → Packed o acct call (.remoteSdp id)

namespace QueuedEvent

variable {o : Nat} {text : Option CStr} {ev : CharPtr → Event CharPtr} {q : QueuedEvent} {m : EventMem}

theorem ev_withText (o : Nat) (text : Option CStr) (ev : CharPtr → Event CharPtr) :
    (withText o text ev).ev = ev (if text.isSome then .buf o 0 else .null) := by
  cases text <;> rfl

theorem read_buf (hm : m.qevs o = some q) (off : Nat) :
    m.read (.buf o off) = (Block.textAt nul off q.buf).map some := by
  rw [EventMem.read, hm, Option.bind_some]

theorem packed_text (o : Nat) (acct call : Option Nat) (text : Option CStr) :
    CharPtr.Packed o acct call (if text.isSome then .buf o 0 else .null) := by
  split
  · exact .buf (by decide)
  · exact .null

theorem read_null : m.read .null = some none := rfl

theorem read_withText (hm : m.qevs o = some q) (hbuf : q.buf = (withText o text ev).buf) :
    m.read (if text.isSome then .buf o 0 else .null) = some (text.map (fitted bufSize)) := by
  cases text with
  | none => rfl
  | some text =>
      rw [Option.isSome_some, if_pos rfl, read_buf hm, hbuf, withText,
        textAt_strNcpyAt length_zeroed (by decide), Option.map_some, Option.map_some, Nat.sub_zero]

theorem read_queueLogEvent {msg : CStr} {len : Nat} (hm : m.qevs o = some (queueLogEvent o msg len)) :
    (queueLogEvent o msg len).ev.map m.read = ((Producer.log msg len).content m).map some := by
  have hread : m.read (.buf o 0) =
      some (some (if 0 < len ∧ len < bufSize then Text.upTo nul (msg.take len) else fitted bufSize msg)) := by
    rw [read_buf hm, queueLogEvent]
    split
    · rename_i hlen
      have htake : (msg.take len).length < bufSize := by
        rw [List.length_take]
        omega
      have hmark : zeroed[0 + (msg.take len).length]? = some nul := by
        rw [Nat.zero_add, zeroed, List.getElem?_replicate, if_pos htake]
      rw [Block.textAt_put_of_mark (Nat.zero_le _) hmark, Option.map_some]
    · rw [textAt_strNcpyAt length_zeroed (by decide), Option.map_some, Nat.sub_zero]
  simp only [queueLogEvent, Event.map, Producer.content, hread]

theorem length_transpName_le (tp : Option Transport) : (transpName tp).length ≤ 3 := by
  cases tp with
  | none => decide
  | some tp => cases tp <;> decide

theorem length_printed_le (peer : Option CStr) : ((peer.map (strNcpy 64)).getD []).length ≤ 63 := by
  cases peer with
  | none => exact Nat.zero_le _
  | some peer => exact List.length_take_le _ _

theorem read_sipTrace {tx : Bool} {tp : Option Transport} {peer : Option CStr} {pkt : List Char} {now : Nat}
    (hm : m.qevs o = some (sipTrace o tx tp peer pkt now)) :
    (sipTrace o tx tp peer pkt now).ev.map m.read = ((Producer.sipTrace tx tp peer pkt now).content m).map some := by
  have htn := length_transpName_le tp
  have hremote := length_printed_le peer
  generalize htext : (peer.map (strNcpy 64)).getD [] = remote at hremote
  generalize hname : transpName tp = tn at htn
  have hsize : bufSize = 4096 := rfl
  have hone := textAt_strNcpyAt length_zeroed (by decide : 0 < bufSize) tn
  have hlen := length_strNcpyAt length_zeroed (Nat.zero_le bufSize) tn
  have htwo := textAt_strNcpyAt hlen (by omega : tn.length + 1 < bufSize) remote
  have hlen' := length_strNcpyAt hlen (by omega : tn.length + 1 ≤ bufSize) remote
  have hfst := length_fitted_le_min (bufSize - 0) tn
  have hsnd := length_fitted_le_min (bufSize - (tn.length + 1)) remote
  have hone' := textAt_strNcpyAt_of_lt hone (by omega : 0 + _ < tn.length + 1) hlen (by omega) remote
  have hread := read_buf hm
  simp only [sipTrace, hname, htext] at hread
  simp only [sipTrace, Event.map, Producer.content, hname, htext, hread]
  rw [textAt_memcpyAt_of_lt hone' (by omega) hlen' (by omega), textAt_memcpyAt_of_lt htwo (by omega) hlen' (by omega),
    textAt_memcpyAt hlen' (by omega)]
  rfl

/-- A string that is packed before `off`, and what it reads as. -/
inductive Holds (o off : Nat) (buf : List Char) : CharPtr → Option CStr → Prop where
  | null : Holds o off buf .null none
  | text {k : Nat} {t : CStr} : Block.textAt nul k buf = some t → k + t.length < off →
      Holds o off buf (.buf o k) (some t)

section Packing

variable {off : Nat} {buf : List Char} {p : CharPtr} {t : Option CStr} {data : Option (List Char)}

theorem Holds.read (h : Holds o off q.buf p t) (hm : m.qevs o = some q) : m.read p = some t := by
  cases h with
  | null => rfl
  | text htext _ => rw [read_buf hm, htext, Option.map_some]

theorem Holds.packed (h : Holds o off buf p t) (hbuf : buf.length = bufSize) (acct call : Option Nat) :
    p.Packed o acct call := by
  cases h with
  | null => exact .null
  | @text k t htext _ =>
      refine .buf (Nat.lt_of_not_le fun hle => ?_)
      rw [Block.textAt_of_length_le (by omega)] at htext
      cases htext

/-- A string of a MESSAGE is packed, or nothing is. -/
theorem packNext_cases (o off : Nat) (data : Option (List Char)) (buf : List Char) :
    (∃ d, data = some d ∧ off < bufSize) ∨
      packNext o data off buf = (.null, off, buf) ∧ Producer.nextOff off data = off ∧
        Producer.saidAt off data = none := by
  by_cases hoff : off < bufSize
  · cases data with
    | none => exact .inr ⟨rfl, ite_self off, ite_self none⟩
    | some d => exact .inl ⟨d, rfl, hoff⟩
  · refine .inr ⟨?_, if_neg hoff, if_neg hoff⟩
    cases data with
    | none => rfl
    | some d => exact if_neg hoff

/-- It is there, and what was packed before it is there still. -/
theorem packNext_spec (hbuf : buf.length = bufSize) (o off : Nat) (data : Option (List Char)) :
    (packNext o data off buf).2.1 = Producer.nextOff off data ∧
      (packNext o data off buf).2.2.length = bufSize ∧
      Holds o (packNext o data off buf).2.1 (packNext o data off buf).2.2 (packNext o data off buf).1
        (Producer.saidAt off data) ∧
      ∀ p t, Holds o off buf p t →
        Holds o (packNext o data off buf).2.1 (packNext o data off buf).2.2 p t := by
  obtain ⟨d, rfl, hoff⟩ | ⟨hpack, hnext, hsaid⟩ := packNext_cases o off data buf
  · have hpack : packNext o (some d) off buf =
        (.buf o off, off + (min d.length (bufSize - off - 1) + 1), memcpyAt off d buf) := if_pos hoff
    have hnext : Producer.nextOff off (some d) = off + (min d.length (bufSize - off - 1) + 1) := if_pos hoff
    have hsaid : Producer.saidAt off (some d) = some (fitted (bufSize - off) d) := if_pos hoff
    have hfit := length_fitted_le_min (bufSize - off) d
    rw [hpack, hnext, hsaid]
    dsimp only
    refine ⟨rfl, length_memcpyAt hbuf hoff d, .text (textAt_memcpyAt hbuf hoff d) (by omega), ?_⟩
    rintro p t (_ | ⟨htext, hlt⟩)
    · exact .null
    · exact .text (textAt_memcpyAt_of_lt htext hlt hbuf hoff.le d) (by omega)
  · rw [hpack, hnext, hsaid]
    exact ⟨rfl, hbuf, .null, fun p t h => h⟩

end Packing

/-- A MESSAGE holds its strings one behind the other. -/
theorem messageRecv_spec (o : Nat) (account : Option Nat) (peer ctype body : Option (List Char)) :
    ∃ fromUri bodyPtr contentType off,
      (messageRecv o account peer ctype body).ev = .message account fromUri bodyPtr contentType ∧
        (messageRecv o account peer ctype body).buf.length = bufSize ∧
        Holds o off (messageRecv o account peer ctype body).buf fromUri (Producer.saidAt 0 peer) ∧
        Holds o off (messageRecv o account peer ctype body).buf contentType
          (Producer.saidAt (Producer.nextOff 0 peer) ctype) ∧
        Holds o off (messageRecv o account peer ctype body).buf bodyPtr
          (Producer.saidAt (Producer.nextOff (Producer.nextOff 0 peer) ctype) body) := by
  obtain ⟨hnext, hlen, hpeer, -⟩ := packNext_spec length_zeroed o 0 peer
  generalize hone : packNext o peer 0 zeroed = r at hnext hlen hpeer
  obtain ⟨fromUri, off, buf⟩ := r
  obtain ⟨hnext', hlen', hctype, hkeep⟩ := packNext_spec hlen o off ctype
  generalize htwo : packNext o ctype off buf = r at hnext' hlen' hctype hkeep
  obtain ⟨contentType, off', buf'⟩ := r
  obtain ⟨-, hlen'', hbody, hkeep'⟩ := packNext_spec hlen' o off' body
  generalize hthree : packNext o body off' buf' = r at hlen'' hbody hkeep'
  obtain ⟨bodyPtr, off'', buf''⟩ := r
  have hev : messageRecv o account peer ctype body =
      { ev := .message account fromUri bodyPtr contentType, buf := buf'', derefAfterDeliver := none } := by
    simp only [messageRecv, hone, htwo, hthree]
  dsimp only at hnext hnext' hpeer hctype hbody hkeep hkeep'
  rw [hev, ← hnext, ← hnext']
  exact ⟨fromUri, bodyPtr, contentType, off'', rfl, hlen'', hkeep' _ _ (hkeep _ _ hpeer), hkeep' _ _ hctype, hbody⟩

theorem read_messageRecv {account : Option Nat} {peer ctype body : Option (List Char)}
    (hm : m.qevs o = some (messageRecv o account peer ctype body)) :
    (messageRecv o account peer ctype body).ev.map m.read =
      ((Producer.message account peer ctype body).content m).map some := by
  obtain ⟨fromUri, bodyPtr, contentType, off, hev, -, hpeer, hctype, hbody⟩ :=
    messageRecv_spec o account peer ctype body
  rw [hev]
  simp only [Event.map, Producer.content, hpeer.read hm, hctype.read hm, hbody.read hm]

section Sdp

variable {call : Nat} {codec : Option CStr} {menc : MediaEnc} {localSdp remoteSdp : CStr}

theorem sdpNegotiation_eq_some (hq : sdpNegotiation o call codec menc localSdp remoteSdp = some q) :
    cryptoOff codec ≤ bufSize ∧
      q =
        { ev := .sdpNegotiation (some call) (if localSdp = [] then .null else .localSdp call)
            (if remoteSdp = [] then .null else .remoteSdp call) (if codec.isSome then .buf o 0 else .null)
            (.buf o (cryptoOff codec))
          buf := strNcpyAt (cryptoOff codec) (cryptoName menc)
            ((codec.map fun name => strNcpyAt 0 name zeroed).getD zeroed)
          derefAfterDeliver := none } := by
  by_cases hover : bufSize < cryptoOff codec
  · rw [sdpNegotiation, if_pos hover] at hq
    cases hq
  · rw [sdpNegotiation, if_neg hover] at hq
    exact ⟨by omega, (Option.some.inj hq).symm⟩

/-- The buffer of an SDP event: the codec's name, if there is one, and behind it that of the encryption. -/
theorem textAt_crypto (hfit : ∀ name ∈ codec, name.length + 1 < bufSize) (crypto : CStr) :
    (∀ name ∈ codec, Block.textAt nul 0
        (strNcpyAt (cryptoOff codec) crypto ((codec.map fun name => strNcpyAt 0 name zeroed).getD zeroed)) =
      some (fitted bufSize name)) ∧
    Block.textAt nul (cryptoOff codec)
        (strNcpyAt (cryptoOff codec) crypto ((codec.map fun name => strNcpyAt 0 name zeroed).getD zeroed)) =
      some (fitted (bufSize - cryptoOff codec) crypto) := by
  cases codec with
  | none => exact ⟨nofun, textAt_strNcpyAt length_zeroed (by decide : 0 < bufSize) crypto⟩
  | some name =>
      have hlt := hfit name rfl
      have hone := textAt_strNcpyAt length_zeroed (by decide : 0 < bufSize) name
      have hlen := length_strNcpyAt length_zeroed (Nat.zero_le bufSize) name
      have hbehind := length_fitted_le_min (bufSize - 0) name
      refine ⟨?_, textAt_strNcpyAt hlen hlt crypto⟩
      rintro name' ⟨⟩
      exact textAt_strNcpyAt_of_lt hone (by omega) hlen hlt.le crypto

theorem read_sdpNegotiation (hq : sdpNegotiation o call codec menc localSdp remoteSdp = some q)
    (hm : m.qevs o = some q) (hfit : ∀ name ∈ codec, name.length + 1 < bufSize) (halive : 0 < m.refs call) :
    q.ev.map m.read = ((Producer.sdpNegotiation call codec menc localSdp remoteSdp).content m).map some := by
  obtain ⟨hname, hcrypto⟩ := textAt_crypto hfit (cryptoName menc)
  have hread := read_buf hm
  have hlocal : m.read (if localSdp = [] then .null else .localSdp call) =
      some (if localSdp = [] then none else some (m.localSdp call)) := by
    split
    · rfl
    · exact if_neg halive.ne'
  have hremote : m.read (if remoteSdp = [] then .null else .remoteSdp call) =
      some (if remoteSdp = [] then none else some (m.remoteSdp call)) := by
    split
    · rfl
    · exact if_neg halive.ne'
  obtain ⟨-, rfl⟩ := sdpNegotiation_eq_some hq
  have hcodec : m.read (if codec.isSome then .buf o 0 else .null) = some (codec.map (fitted bufSize)) := by
    cases codec with
    | none => rfl
    | some name => rw [Option.isSome_some, if_pos rfl, hread, hname name rfl, Option.map_some, Option.map_some]
  simp only [Event.map, Producer.content]
  rw [hlocal, hremote, hcodec, hread, hcrypto, Option.map_some]

end Sdp

theorem read_regState {account : Option Nat} {ev : RegEvent} (hm : m.qevs o = some (regState o account ev))
    (hacct : ∀ id ∈ (Producer.regState account ev).borrowed, (m.regErrorStr id).isSome) :
    (regState o account ev).ev.map m.read = ((Producer.regState account ev).content m).map some := by
  rw [Producer.borrowed_regState] at hacct
  unfold regState at hm ⊢
  simp only [Producer.content]
  cases herr : ev.errorStr with
  | null => rfl
  | acct =>
      rw [if_pos herr] at hacct
      cases account with
      | none => rfl
      | some id =>
          obtain ⟨text, htext⟩ := Option.isSome_iff_exists.mp (hacct id rfl)
          simp only [posted, Event.map, Option.map_some, Option.getD_some, EventMem.read, Option.bind_some, htext]
  | buf text =>
      rw [herr] at hm
      simp only [ev_withText, Event.map, read_withText hm rfl, Option.map_some]

end QueuedEvent

namespace Producer

open QueuedEvent

variable {o n : Nat} {p : Producer} {old : QueuedEvent} {m : EventMem}

/-- What is queued says what the producer was given. -/
theorem reads (hqev : p.qev o = some old) (hm : m.qevs o = some old) (hfit : p.Fits) (halive : p.Alive m)
    (hacct : ∀ id ∈ p.borrowed, (m.regErrorStr id).isSome) :
    old.ev.map m.read = (p.content m).map some := by
  cases p with
  | sdpNegotiation call codec menc localSdp remoteSdp => exact read_sdpNegotiation hqev hm hfit halive
  | log msg len =>
      obtain rfl := Option.some.inj hqev
      exact read_queueLogEvent hm
  | regState account ev =>
      obtain rfl := Option.some.inj hqev
      exact read_regState hm hacct
  | sipTrace tx tp peer pkt now =>
      obtain rfl := Option.some.inj hqev
      exact read_sipTrace hm
  | message account peer ctype body =>
      obtain rfl := Option.some.inj hqev
      exact read_messageRecv hm
  | callState account call state =>
      obtain rfl := Option.some.inj hqev
      rfl
  | callDtmf call digit =>
      obtain rfl := Option.some.inj hqev
      rfl
  | qualityAlert call a =>
      obtain rfl := Option.some.inj hqev
      rfl
  | registrarWarning text =>
      obtain rfl := Option.some.inj hqev
      simp only [QueuedEvent.postRegistrarWarning, ev_withText, Event.map, content, read_withText hm rfl,
        Option.map_some]
  | incomingCall account call peer =>
      obtain rfl := Option.some.inj hqev
      simp only [QueuedEvent.incomingCall, ev_withText, Event.map, content, read_withText hm rfl, read_null]
  | callClosed c globalMenc =>
      obtain rfl := Option.some.inj hqev
      simp only [ClosedCall.qev, ev_withText, Event.map, content, read_withText hm rfl]
  | mediaStats call s =>
      obtain rfl := Option.some.inj hqev
      simp only [QueuedEvent.mediaStats, ev_withText, Event.map, content, read_withText hm rfl]
  | transferRequest account call text =>
      obtain rfl := Option.some.inj hqev
      simp only [QueuedEvent.transferRequest, ev_withText, Event.map, content, read_withText hm rfl]
  | transferFailed account call reason =>
      obtain rfl := Option.some.inj hqev
      simp only [QueuedEvent.transferFailed, ev_withText, Event.map, content, read_withText hm rfl]
  | mwi account counts body =>
      obtain rfl := Option.some.inj hqev
      simp only [QueuedEvent.handleMwi, ev_withText, Event.map, content, read_withText hm rfl]
  | presenceState uri status =>
      obtain rfl := Option.some.inj hqev
      simp only [QueuedEvent.contactUpdate, ev_withText, Event.map, content, read_withText hm rfl]
  | network r =>
      obtain rfl := Option.some.inj hqev
      simp only [QueuedEvent.netmonEmit, ev_withText, Event.map, content, read_withText hm rfl, Option.map_some]

/-- The strings of what is queued are packed, apart from those the account or the wrapper keeps. -/
theorem packed (hqev : p.qev o = some old) (hfit : p.Fits) :
    ∀ s ∈ old.ev.strings, s.Packed o p.borrowed old.ev.sdpCall := by
  cases p with
  | sdpNegotiation call codec menc localSdp remoteSdp =>
      obtain ⟨-, rfl⟩ := sdpNegotiation_eq_some hqev
      have hlocal : CharPtr.Packed o none (some call) (if localSdp = [] then .null else .localSdp call) := by
        split
        · exact .null
        · exact .localSdp rfl
      have hremote : CharPtr.Packed o none (some call) (if remoteSdp = [] then .null else .remoteSdp call) := by
        split
        · exact .null
        · exact .remoteSdp rfl
      have hcrypto : CharPtr.Packed o none (some call) (.buf o (cryptoOff codec)) := by
        refine .buf ?_
        cases codec with
        | none => exact (by decide : 0 < bufSize)
        | some name => exact hfit name rfl
      simp only [Event.strings, List.forall_mem_cons, List.not_mem_nil, IsEmpty.forall_iff, implies_true, and_true]
      exact ⟨hlocal, hremote, packed_text o _ _ codec, hcrypto⟩
  | sipTrace tx tp peer pkt now =>
      obtain rfl := Option.some.inj hqev
      have htn := length_transpName_le tp
      have hremote := length_printed_le peer
      have hsize : bufSize = 4096 := rfl
      simp only [QueuedEvent.sipTrace, Event.strings, List.forall_mem_cons, List.not_mem_nil, IsEmpty.forall_iff,
        implies_true, and_true]
      exact ⟨.buf (by omega), .buf (by omega), .buf (by omega)⟩
  | message account peer ctype body =>
      obtain rfl := Option.some.inj hqev
      obtain ⟨fromUri, bodyPtr, contentType, off, hev, hlen, hpeer, hctype, hbody⟩ :=
        messageRecv_spec o account peer ctype body
      rw [hev]
      simp only [Event.strings, List.forall_mem_cons, List.not_mem_nil, IsEmpty.forall_iff, implies_true, and_true]
      exact ⟨hpeer.packed hlen _ _, hbody.packed hlen _ _, hctype.packed hlen _ _⟩
  | regState account ev =>
      obtain rfl := Option.some.inj hqev
      rw [borrowed_regState]
      unfold QueuedEvent.regState
      cases ev.errorStr with
      | null => exact List.forall_mem_singleton.mpr .null
      | acct =>
          cases account with
          | none => exact List.forall_mem_singleton.mpr .null
          | some id => exact List.forall_mem_singleton.mpr (.regErrorStr rfl)
      | buf text =>
          rw [ev_withText]
          exact List.forall_mem_singleton.mpr (packed_text o _ _ (some text))
  | log msg len =>
      obtain rfl := Option.some.inj hqev
      exact List.forall_mem_singleton.mpr (.buf (by decide))
  | callState account call state =>
      obtain rfl := Option.some.inj hqev
      exact List.forall_mem_singleton.mpr .null
  | callDtmf | qualityAlert =>
      obtain rfl := Option.some.inj hqev
      exact List.forall_mem_nil _
  | incomingCall account call peer =>
      obtain rfl := Option.some.inj hqev
      rw [QueuedEvent.incomingCall, ev_withText]
      exact List.forall_mem_cons.mpr ⟨packed_text o _ _ peer, List.forall_mem_singleton.mpr .null⟩
  | registrarWarning | callClosed | mediaStats | transferRequest | transferFailed | mwi | presenceState | network =>
      obtain rfl := Option.some.inj hqev
      simp only [postRegistrarWarning, ClosedCall.qev, QueuedEvent.mediaStats, QueuedEvent.transferRequest,
        QueuedEvent.transferFailed, handleMwi, contactUpdate, netmonEmit, ev_withText]
      exact List.forall_mem_singleton.mpr (packed_text o _ _ _)

/-- The switch of `qev_clone` leaves none of these strings out. -/
theorem rebased (hqev : p.qev o = some old) (n : Nat) : old.ev.rebased o n = old.ev.map (rb o n) := by
  cases p with
  | sdpNegotiation call codec menc localSdp remoteSdp =>
      obtain ⟨-, rfl⟩ := sdpNegotiation_eq_some hqev
      have hlocal : rb o n (if localSdp = [] then .null else .localSdp call) =
          if localSdp = [] then .null else .localSdp call := by
        split <;> rfl
      have hremote : rb o n (if remoteSdp = [] then .null else .remoteSdp call) =
          if remoteSdp = [] then .null else .remoteSdp call := by
        split <;> rfl
      simp only [Event.rebased, Event.map, hlocal, hremote]
  | regState account ev =>
      obtain rfl := Option.some.inj hqev
      unfold QueuedEvent.regState
      cases ev.errorStr with
      | buf text => rw [ev_withText]; rfl
      | _ => rfl
  | log | callState | callDtmf | sipTrace | qualityAlert | message =>
      obtain rfl := Option.some.inj hqev
      rfl
  | _ =>
      obtain rfl := Option.some.inj hqev
      simp only [postRegistrarWarning, QueuedEvent.incomingCall, ClosedCall.qev, QueuedEvent.mediaStats,
        QueuedEvent.transferRequest, QueuedEvent.transferFailed, handleMwi, contactUpdate, netmonEmit, ev_withText]
      rfl

theorem sdpCall_qev (hqev : p.qev o = some old) : old.ev.sdpCall = p.sdpCall := by
  cases p with
  | sdpNegotiation call codec menc localSdp remoteSdp =>
      obtain ⟨-, rfl⟩ := sdpNegotiation_eq_some hqev
      rfl
  | regState account ev =>
      obtain rfl := Option.some.inj hqev
      unfold QueuedEvent.regState
      cases ev.errorStr <;> rfl
  | log | callState | callDtmf | sipTrace | qualityAlert | message =>
      obtain rfl := Option.some.inj hqev
      rfl
  | _ =>
      obtain rfl := Option.some.inj hqev
      simp only [postRegistrarWarning, QueuedEvent.incomingCall, ClosedCall.qev, QueuedEvent.mediaStats,
        QueuedEvent.transferRequest, QueuedEvent.transferFailed, handleMwi, contactUpdate, netmonEmit, ev_withText]
      rfl

/-- An SDP event holds no reference as it is queued. -/
theorem derefAfterDeliver_of_sdpCall (hqev : p.qev o = some old) {call : Nat} (hcall : p.sdpCall = some call) :
    old.derefAfterDeliver = none := by
  cases p with
  | sdpNegotiation id codec menc localSdp remoteSdp =>
      obtain ⟨-, rfl⟩ := sdpNegotiation_eq_some hqev
      rfl
  | _ => cases hcall

theorem alive_iff : p.Alive m ↔ ∀ call, p.sdpCall = some call → 0 < m.refs call := by
  cases p <;> simp [Alive, sdpCall]

/-- A codec name that fills the buffer leaves the pointer behind it where it is. -/
theorem fits_of_apart (hqev : p.qev o = some old) (hapart : ∀ off, .buf o off ∉ (old.ev.rebased o n).strings) :
    p.Fits := by
  cases p with
  | sdpNegotiation call codec menc localSdp remoteSdp =>
      obtain ⟨hoff, rfl⟩ := sdpNegotiation_eq_some hqev
      rintro name ⟨⟩
      refine lt_of_le_of_ne hoff fun hfull => hapart bufSize ?_
      have hcrypto : cryptoOff (some name) = bufSize := hfull
      have hrb : rb o n (.buf o (cryptoOff (some name))) = .buf o bufSize := by
        rw [rb, if_neg (by omega), hcrypto]
      simp only [Event.rebased, Event.strings, hrb]
      simp
  | _ => trivial

theorem mem_strings_of_borrowed (hqev : p.qev o = some old) {id : Nat} (hid : p.borrowed = some id) :
    .regErrorStr id ∈ old.ev.strings := by
  cases p with
  | regState account ev =>
      obtain rfl := Option.some.inj hqev
      rw [borrowed_regState] at hid
      split at hid
      · next herr =>
          subst hid
          simp [QueuedEvent.regState, herr, posted, Event.strings]
      · cases hid
  | _ => cases hid

end Producer

end VoxSdk
