import VoxSdk.MessageRecv
import VoxSdk.Proof.PackedEvents

/-!
# The strings of a MESSAGE

No difference the handler computes wraps and no write leaves the buffer, so the event is the one the queue is
modelled with, and its strings are packed one behind the other.
-/

namespace VoxSdk

open Block QueuedEvent

variable {off : Nat} {buf src : List Char}

/-! ### Nothing wraps -/

theorem sizeSub_of_le {a b : Nat} (h : b ≤ a) : sizeSub a b = some (a - b) := if_pos h

theorem bufWrite_of_le (h : off + src.length ≤ buf.length) : bufWrite off src buf = some (put off src buf) :=
  if_pos h

theorem take_min_length (k : Nat) (src : List Char) : src.take (min src.length k) = src.take k := by
  rw [List.take_eq_take_iff]
  omega

/-- The two writes put as much of the string as fits there, and a NUL behind it. -/
theorem copyString_eq (hbuf : buf.length = bufSize) (hoff : off < bufSize) (o : Nat) (src : List Char) :
    copyString o src (bufSize - off - 1) off buf =
      some (.buf o off, off + (min src.length (bufSize - off - 1) + 1), memcpyAt off src buf) := by
  have hn : (if src.length < bufSize - off - 1 then src.length else bufSize - off - 1) =
      min src.length (bufSize - off - 1) := by
    split <;> omega
  have hlen : (src.take (bufSize - off - 1)).length = min src.length (bufSize - off - 1) := by
    rw [List.length_take, min_comm]
  have htext : off + (src.take (bufSize - off - 1)).length ≤ buf.length := by omega
  have hnul : off + min src.length (bufSize - off - 1) + [nul].length ≤
      (put off (src.take (bufSize - off - 1)) buf).length := by
    rw [length_put htext, List.length_singleton]
    omega
  have hboth : put (off + min src.length (bufSize - off - 1)) [nul]
      (put off (src.take (bufSize - off - 1)) buf) = memcpyAt off src buf := by
    rw [← hlen]
    exact put_put (by omega)
  unfold copyString
  dsimp only
  rw [hn, take_min_length, bufWrite_of_le htext, Option.bind_eq_bind, Option.bind_some, bufWrite_of_le hnul,
    Option.bind_some, hboth]

theorem copyFirst_eq (o : Nat) (data : Option (List Char)) :
    copyFirst o data zeroed = some (packNext o data 0 zeroed) := by
  cases data with
  | none => rfl
  | some src =>
      unfold copyFirst
      dsimp only
      rw [sizeSub_of_le (by decide), Option.bind_eq_bind, Option.bind_some]
      exact copyString_eq length_zeroed (by decide) o src

theorem copyBehind_eq (hbuf : buf.length = bufSize) (o off : Nat) (data : Option (List Char)) :
    copyBehind o data off buf = some (packNext o data off buf) := by
  cases data with
  | none => rfl
  | some src =>
      unfold copyBehind packNext
      by_cases hoff : off < bufSize
      · simp only [if_pos hoff]
        rw [sizeSub_of_le hoff.le, Option.bind_eq_bind, Option.bind_some, sizeSub_of_le (Nat.sub_pos_of_lt hoff),
          Option.bind_some]
        exact copyString_eq hbuf hoff o src
      · simp only [if_neg hoff]

/-- The handler computes the event the queue is modelled with. -/
theorem messageRecvHandler_eq (o : Nat) (account : Option Nat) (peer ctype body : Option (List Char)) :
    messageRecvHandler o account peer ctype body = some (messageRecv o account peer ctype body) := by
  obtain ⟨-, hlen, -, -⟩ := packNext_spec length_zeroed o 0 peer
  unfold messageRecvHandler messageRecv
  rw [copyFirst_eq, Option.bind_eq_bind, Option.bind_some]
  generalize packNext o peer 0 zeroed = packed at hlen
  obtain ⟨fromUri, off, buf⟩ := packed
  obtain ⟨-, hlen', -, -⟩ := packNext_spec hlen o off ctype
  dsimp only at hlen ⊢
  rw [copyBehind_eq hlen, Option.bind_some]
  generalize packNext o ctype off buf = packed at hlen'
  obtain ⟨contentType, off', buf'⟩ := packed
  dsimp only at hlen' ⊢
  rw [copyBehind_eq hlen', Option.bind_some]

/-! ### The layout -/

/-- The pointer to a region. -/
def regionPtr (o : Nat) : Option Region → CharPtr
  | none => .null
  | some r => .buf o r.off

/-- A step of `packNext` is a step of `Block.pack`. -/
theorem pack_cons (hbuf : buf.length = bufSize) (o off : Nat) (data : Option (List Char))
    (texts : List (Option (List Char))) :
    ∃ r, (packNext o data off buf).1 = regionPtr o r ∧
      pack nul off (data :: texts) buf =
        (r :: (pack nul (packNext o data off buf).2.1 texts (packNext o data off buf).2.2).1,
          (pack nul (packNext o data off buf).2.1 texts (packNext o data off buf).2.2).2) := by
  cases data with
  | none => exact ⟨none, rfl, rfl⟩
  | some src =>
      rw [pack, hbuf]
      unfold packNext
      by_cases hoff : off < bufSize
      · simp only [if_pos hoff, take_min_length]
        exact ⟨some { off, len := min src.length (bufSize - off - 1) }, rfl, rfl⟩
      · simp only [if_neg hoff]
        exact ⟨none, rfl, rfl⟩

/-- **The strings of a MESSAGE.** Whatever the three strings are, no difference wraps and no write leaves the
buffer, and the event points to where each of them stands: the strings are in the buffer with their NULs, apart
from each other, each a prefix of its source, and all of it if they all fit. Only when the strings before it fill
the buffer to its last byte is one left out, and its pointer is NULL. -/
theorem message_recv_layout (o : Nat) (account : Option Nat) (peer ctype body : Option (List Char)) :
    ∃ (q : QueuedEvent) (fromAt ctypeAt bodyAt : Option Region),
      messageRecvHandler o account peer ctype body = some q ∧
      q.ev = .message account (regionPtr o fromAt) (regionPtr o bodyAt) (regionPtr o ctypeAt) ∧
      q.buf.length = bufSize ∧
      LaysOut nul q.buf 0 [(peer, fromAt), (ctype, ctypeAt), (body, bodyAt)] := by
  obtain ⟨-, hlen, -, -⟩ := packNext_spec length_zeroed o 0 peer
  obtain ⟨-, hlen', -, -⟩ := packNext_spec hlen o (packNext o peer 0 zeroed).2.1 ctype
  obtain ⟨fromAt, hfrom, hpack⟩ := pack_cons length_zeroed o 0 peer [ctype, body]
  obtain ⟨ctypeAt, hctype, hpack'⟩ := pack_cons hlen o (packNext o peer 0 zeroed).2.1 ctype [body]
  obtain ⟨bodyAt, hbody, hpack''⟩ := pack_cons hlen' o
    (packNext o ctype (packNext o peer 0 zeroed).2.1 (packNext o peer 0 zeroed).2.2).2.1 body []
  obtain ⟨hlength, hlaid, -⟩ := @pack_spec _ nul zeroed 0 [peer, ctype, body] (Nat.zero_le _)
  rw [hpack, hpack', hpack''] at hlength hlaid
  refine ⟨_, fromAt, ctypeAt, bodyAt, messageRecvHandler_eq o account peer ctype body, ?_,
    hlength.trans length_zeroed, hlaid⟩
  rw [← hfrom, ← hctype, ← hbody]
  rfl

theorem packNext_of_full (o : Nat) (data : Option (List Char)) (buf : List Char) :
    packNext o data bufSize buf = (.null, bufSize, buf) := by
  cases data with
  | none => rfl
  | some src => rw [packNext, if_neg (lt_irrefl bufSize)]

/-- A sender that fills the buffer with its NUL leaves no room for the others. -/
theorem messageRecv_of_long {peer : List Char} (hpeer : bufSize - 1 ≤ peer.length) (o : Nat)
    (account : Option Nat) (ctype body : Option (List Char)) :
    (messageRecv o account (some peer) ctype body).ev = .message account (.buf o 0) .null .null := by
  have hmin : min peer.length (bufSize - 0 - 1) = bufSize - 1 := min_eq_right hpeer
  have hfirst : packNext o (some peer) 0 zeroed = (.buf o 0, bufSize, memcpyAt 0 peer zeroed) := by
    rw [packNext, if_pos (by decide), hmin]
    rfl
  unfold messageRecv
  rw [hfirst]
  dsimp only
  rw [packNext_of_full]
  dsimp only
  rw [packNext_of_full]

/-- Then the body is not in the event. -/
theorem message_body_left_out :
    ¬ ∀ peer body : List Char, ∃ (q : QueuedEvent) (fromUri bodyPtr contentType : CharPtr),
      messageRecvHandler 0 none (some peer) none (some body) = some q ∧
        q.ev = .message none fromUri bodyPtr contentType ∧ bodyPtr ≠ .null := by
  intro h
  obtain ⟨q, fromUri, bodyPtr, contentType, hq, hev, hbody⟩ := h (List.replicate 4095 'a') "hi".toList
  rw [messageRecvHandler_eq] at hq
  obtain rfl := Option.some.inj hq
  have hlong : bufSize - 1 ≤ (List.replicate 4095 'a').length := by
    rw [List.length_replicate]
    exact le_rfl
  rw [messageRecv_of_long hlong] at hev
  exact hbody (Event.message.inj hev).2.2.1.symm

end VoxSdk
