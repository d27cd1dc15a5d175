import VoxSdk.Outbound
import VoxSdk.QevClone

/-!
# The message summary

How `parse_mwi_body` (`presence.c`) reads the body of a NOTIFY: line by line, and in a line with `strtoul`, which
skips white space of its own and is not stopped by the end of the line.
-/

namespace VoxSdk

open Text

/-- Where `strtoul(s, &end, 10)` leaves `end`. -/
def strtoulEnd (s : CStr) : CStr :=
  let rest := (strtoulSign (s.dropWhile isSpace)).2
  if rest.takeWhile Char.isDigit = [] then s else rest.dropWhile Char.isDigit

/-- `(uint32_t)strtoul(s, NULL, 10)`. -/
def strtoul32 (s : CStr) : UInt32 := .ofNat (strtoul s)

namespace MwiCounts

/-- What `parse_mwi_body` starts from. -/
def zero : MwiCounts :=
  { messagesWaiting := false, newVoice := 0, oldVoice := 0, newUrgent := 0, oldUrgent := 0 }

/-- The status, from behind the spaces on. -/
def readStatus (p : CStr) (m : MwiCounts) : MwiCounts :=
  { m with messagesWaiting := startsWithCase "yes".toList p }

/-- `(new-urgent/old-urgent)`, if `endp` is at the space before it. -/
def readUrgent (endp : CStr) (m : MwiCounts) : MwiCounts :=
  if endp.head? = some ' ' ∧ endp.tail.head? = some '(' then
    let p := endp.drop 2
    let m := { m with newUrgent := strtoul32 p }
    let endp := strtoulEnd p
    if endp.head? = some '/' then { m with oldUrgent := strtoul32 endp.tail } else m
  else m

/-- `new/old (new-urgent/old-urgent)`, from behind the spaces on. -/
def readVoice (p : CStr) (m : MwiCounts) : MwiCounts :=
  let m := { m with newVoice := strtoul32 p }
  let endp := strtoulEnd p
  if endp.head? = some '/' then
    readUrgent (strtoulEnd endp.tail) { m with oldVoice := strtoul32 endp.tail }
  else readUrgent endp m

/-- One round of `parse_mwi_body`, up to the `strchr`: what has been read, and where `p` is. -/
def parseLine (p : CStr) (m : MwiCounts) : MwiCounts × CStr :=
  if startsWithCase "messages-waiting:".toList p then
    let p := (p.drop 17).dropWhile fun c => decide (c = ' ')
    (m.readStatus p, p)
  else if startsWithCase "voice-message:".toList p then
    let p := (p.drop 14).dropWhile fun c => decide (c = ' ')
    (m.readVoice p, p)
  else (m, p)

/-- So many rounds of `parse_mwi_body`. -/
def parseRounds : Nat → CStr → MwiCounts → MwiCounts
  | 0, _, m => m
  | _ + 1, [], m => m
  | rounds + 1, c :: p, m =>
      let line := m.parseLine (c :: p)
      parseRounds rounds (past '\n' line.2) line.1

end MwiCounts

/-- `parse_mwi_body`. Each round takes a character at least. -/
def parseMwiBody (body : CStr) : MwiCounts := MwiCounts.parseRounds body.length body .zero

end VoxSdk
