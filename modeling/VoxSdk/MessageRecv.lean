import VoxSdk.QevClone

/-!
# Packing an incoming MESSAGE

`message_recv_handler` computes by itself what is left of the event's buffer, in `size_t`, and writes with
`memcpy`. Here each of its subtractions and writes is one that may go wrong: a difference below zero wraps, and
a write outside the buffer is into something else (`message.c`).
-/

namespace VoxSdk

/-- `a - b` in `size_t`; nothing where it wraps. -/
def sizeSub (a b : Nat) : Option Nat := if b ≤ a then some (a - b) else none

/-- A write of `data` to `qev->buf + off`; nothing where it leaves the buffer. -/
def bufWrite (off : Nat) (data buf : List Char) : Option (List Char) :=
  if off + data.length ≤ buf.length then some (Block.put off data buf) else none

/-- The body of each of the three `if`s of `message_recv_handler`: `room` is what the length is compared with.
The string goes to `off`, and the next one behind its NUL. -/
def copyString (o : Nat) (src : List Char) (room off : Nat) (buf : List Char) :
    Option (CharPtr × Nat × List Char) := do
  let n := if src.length < room then src.length else room
  let buf ← bufWrite off (src.take n) buf
  let buf ← bufWrite (off + n) [nul] buf
  some (.buf o off, off + (n + 1), buf)

/-- The `if` of the sender. -/
def copyFirst (o : Nat) (src : Option (List Char)) (buf : List Char) : Option (CharPtr × Nat × List Char) :=
  match src with
  | none => some (.null, 0, buf)
  | some src => do
      let room ← sizeSub bufSize 1
      copyString o src room 0 buf

/-- The `if` of the content type and that of the body. -/
def copyBehind (o : Nat) (src : Option (List Char)) (off : Nat) (buf : List Char) :
    Option (CharPtr × Nat × List Char) :=
  match src with
  | none => some (.null, off, buf)
  | some src =>
      if off < bufSize then do
        let left ← sizeSub bufSize off
        let room ← sizeSub left 1
        copyString o src room off buf
      else some (.null, off, buf)

/-- `message_recv_handler`, of the event in the block `o`. A string that is absent is NULL, or has no text. -/
def messageRecvHandler (o : Nat) (account : Option Nat) (peer ctype body : Option (List Char)) :
    Option QueuedEvent := do
  let (fromUri, off, buf) ← copyFirst o peer zeroed
  let (contentType, off, buf) ← copyBehind o ctype off buf
  let (body, _, buf) ← copyBehind o body off buf
  some { ev := .message account fromUri body contentType, buf, derefAfterDeliver := none }

end VoxSdk
