import VoxSdk.Mwi

/-!
# Message summaries

The bodies of RFC 3842, as far as voice messages go: blanks may stand on both sides of ':', '/', '(' and ')', the
names of the headers may be in any case, and the lines in any order with others between them. What a body states is
said from its lines alone, and a body that states given values is rendered.
-/

namespace VoxSdk

/-- `WSP`, a space or a tab. -/
def isWsp (c : Char) : Bool := decide (c = ' ' ∨ c = '\t')

/-- Spaces and tabs, or nothing. -/
structure Blanks where
  text : CStr
  blank : ∀ c ∈ text, isWsp c = true

/-- A word in any case. -/
structure Spelling (word : String) where
  text : CStr
  lower : text.map Char.toLower = word.toList

/-- `msgcount`. -/
structure MsgCount where
  digits : CStr
  isDigit : ∀ c ∈ digits, c.isDigit = true
  ne_nil : digits ≠ []
  bounded : Nat.ofDigitChars 10 digits 0 < 2 ^ 32

/-- `newmsgs SLASH oldmsgs`. -/
structure CountPair where
  new : MsgCount
  beforeSlash : Blanks
  afterSlash : Blanks
  old : MsgCount

/-- `LPAREN new-urgentmsgs SLASH old-urgentmsgs RPAREN`. -/
structure UrgentPart where
  beforeOpen : Blanks
  afterOpen : Blanks
  counts : CountPair
  beforeClose : Blanks
  afterClose : Blanks

/-- `msg-status-line`. -/
structure StatusLine where
  name : Spelling "messages-waiting"
  beforeColon : Blanks
  afterColon : Blanks
  waiting : Bool
  status : Spelling (if waiting then "yes" else "no")

/-- `msg-summary-line`, of voice messages. -/
structure VoiceLine where
  name : Spelling "voice-message"
  beforeColon : Blanks
  afterColon : Blanks
  counts : CountPair
  urgent : Option UrgentPart

/-- The text is a line of this header. -/
def namesHeader (header : String) (text : CStr) : Bool :=
  startsWithCase header.toList text &&
    decide (((text.drop header.toList.length).dropWhile isWsp).head? = some ':')

/-- Any other line. -/
structure OtherLine where
  text : CStr
  newline : '\n' ∉ text
  status : namesHeader "messages-waiting" text = false
  voice : namesHeader "voice-message" text = false

inductive MwiLine where
  | status (l : StatusLine)
  | voice (l : VoiceLine)
  | other (l : OtherLine)

def MsgCount.value (n : MsgCount) : UInt32 := .ofNat (Nat.ofDigitChars 10 n.digits 0)

def CountPair.text (p : CountPair) : CStr :=
  p.new.digits ++ (p.beforeSlash.text ++ '/' :: (p.afterSlash.text ++ p.old.digits))

def UrgentPart.text (u : UrgentPart) : CStr :=
  u.beforeOpen.text ++ '(' ::
    (u.afterOpen.text ++ (u.counts.text ++ (u.beforeClose.text ++ ')' :: u.afterClose.text)))

def StatusLine.text (l : StatusLine) : CStr :=
  l.name.text ++ (l.beforeColon.text ++ ':' :: (l.afterColon.text ++ l.status.text))

def VoiceLine.text (l : VoiceLine) : CStr :=
  l.name.text ++ (l.beforeColon.text ++
    ':' :: (l.afterColon.text ++ (l.counts.text ++ (l.urgent.elim [] UrgentPart.text))))

namespace MwiLine

def text : MwiLine → CStr
  | .status l => l.text
  | .voice l => l.text
  | .other l => l.text

def status? : MwiLine → Option StatusLine
  | .status l => some l
  | _ => none

def voice? : MwiLine → Option VoiceLine
  | .voice l => some l
  | _ => none

end MwiLine

/-- A body: its lines, each with or without a carriage return at its end. -/
abbrev MwiBody := List (MwiLine × Bool)

/-- The end of a line. -/
def eol (cr : Bool) : CStr := if cr then ['\r', '\n'] else ['\n']

def MwiBody.text (body : MwiBody) : CStr := body.flatMap fun line => line.1.text ++ eol line.2

/-! ### What a body states -/

/-- Whoever states it states `x`, and if nobody does it is `d`. -/
def Stated {α : Type*} (d : α) (xs : List α) (x : α) : Prop := (∀ y ∈ xs, y = x) ∧ (xs = [] → x = d)

namespace MwiBody

variable (body : MwiBody)

def statuses : List StatusLine := body.filterMap fun line => line.1.status?

def voices : List VoiceLine := body.filterMap fun line => line.1.voice?

def urgents : List UrgentPart := body.voices.filterMap VoiceLine.urgent

/-- The body states the flag and the counts of `m`: what no line states is not waiting, or 0. -/
structure States (m : MwiCounts) : Prop where
  messagesWaiting : Stated false (body.statuses.map StatusLine.waiting) m.messagesWaiting
  newVoice : Stated 0 (body.voices.map fun l => l.counts.new.value) m.newVoice
  oldVoice : Stated 0 (body.voices.map fun l => l.counts.old.value) m.oldVoice
  newUrgent : Stated 0 (body.urgents.map fun u => u.counts.new.value) m.newUrgent
  oldUrgent : Stated 0 (body.urgents.map fun u => u.counts.old.value) m.oldUrgent

end MwiBody

/-! ### Rendering -/

/-- A count in decimal. -/
def renderCount (x : UInt32) : CStr := (Nat.repr x.toNat).toList

/-- The summary as the comment at `parse_mwi_body` has it. -/
def renderSummary (m : MwiCounts) : CStr :=
  "Messages-Waiting: ".toList ++ ((if m.messagesWaiting then "yes" else "no").toList ++
    ("\r\nVoice-Message: ".toList ++ (renderCount m.newVoice ++ ('/' :: (renderCount m.oldVoice ++
      (" (".toList ++ (renderCount m.newUrgent ++ ('/' :: (renderCount m.oldUrgent ++ ")\r\n".toList)))))))))

end VoxSdk
