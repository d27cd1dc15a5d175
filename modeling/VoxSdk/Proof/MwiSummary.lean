import VoxSdk.Proof.MwiGrammar
import VoxSdk.Proof.ServerUrl

/-!
# Which message summaries are read

`parse_mwi_body` has no place for blanks before ':' and '/', wants one space before '(', and takes a status only from
behind spaces; everything else the grammar allows it reads. A line it reads in part leaves the other counts as the
lines before have left them.
-/

namespace VoxSdk

open Text

/-! ### Numbers and blanks -/

theorem isWsp_iff {c : Char} : isWsp c = true ↔ c = ' ' ∨ c = '\t' := by
  rw [isWsp, decide_eq_true_eq]

theorem isSpace_of_isWsp {c : Char} (h : isWsp c = true) : isSpace c = true := by
  obtain rfl | rfl := isWsp_iff.mp h
  · decide
  · decide

theorem isDigit_of_isWsp {c : Char} (h : isWsp c = true) : c.isDigit = false := by
  obtain rfl | rfl := isWsp_iff.mp h
  · decide
  · decide

namespace Blanks

variable (b : Blanks)

/-- What follows the blanks is behind them at once, if at all, only when there are none. -/
theorem head?_append_iff {c : Char} (hc : isWsp c = false) (t : CStr) :
    (b.text ++ c :: t).head? = some c ↔ b.text = [] := by
  obtain ⟨text, hblank⟩ := b
  cases text with
  | nil => exact iff_of_true rfl rfl
  | cons a text =>
      refine iff_of_false ?_ (List.cons_ne_nil a text)
      intro heq
      obtain rfl := Option.some.inj heq
      exact absurd (hblank a List.mem_cons_self) (by rw [hc]; decide)

/-- A space and a bracket behind it: one blank, a space. -/
theorem opens_iff {c : Char} (hc : isWsp c = false) (t : CStr) :
    ((b.text ++ c :: t).head? = some ' ' ∧ (b.text ++ c :: t).tail.head? = some '(') ↔
      b.text = [' '] ∧ c = '(' := by
  obtain ⟨text, hblank⟩ := b
  cases text with
  | nil =>
      refine iff_of_false ?_ (by simp)
      rintro ⟨hhead, -⟩
      obtain rfl := Option.some.inj hhead
      exact absurd hc (by decide)
  | cons a text =>
      cases text with
      | nil => simp
      | cons a' text =>
          refine iff_of_false ?_ (by simp)
          rintro ⟨-, hopen⟩
          obtain rfl := Option.some.inj hopen
          exact absurd (hblank '(' (List.mem_cons_of_mem _ List.mem_cons_self)) (by decide)

theorem head?_isDigit {c : Char} (hc : c.isDigit = false) (t : CStr) :
    ∀ a, (b.text ++ c :: t).head? = some a → a.isDigit = false := by
  obtain ⟨text, hblank⟩ := b
  intro a ha
  cases text with
  | nil =>
      obtain rfl := Option.some.inj ha
      exact hc
  | cons a' text =>
      obtain rfl := Option.some.inj ha
      exact isDigit_of_isWsp (hblank a' List.mem_cons_self)

end Blanks

/-- `strtoul` skips the blanks, reads the digits, and stops behind them. -/
theorem MsgCount.strtoul (n : MsgCount) {b t : CStr} (hb : ∀ c ∈ b, isWsp c = true)
    (ht : ∀ c, t.head? = some c → c.isDigit = false) :
    strtoul32 (b ++ (n.digits ++ t)) = n.value ∧ strtoulEnd (b ++ (n.digits ++ t)) = t := by
  obtain ⟨d, ds, hdigits⟩ := List.exists_cons_of_ne_nil n.ne_nil
  have hd : d.isDigit = true := n.isDigit d (by rw [hdigits]; exact List.mem_cons_self)
  obtain ⟨hspace, hminus, hplus⟩ := digit_cases hd
  have hskip : (b ++ (n.digits ++ t)).dropWhile isSpace = n.digits ++ t := by
    apply dropWhile_append_of_head fun c hc => isSpace_of_isWsp (hb c hc)
    intro c hc
    rw [hdigits] at hc
    obtain rfl := Option.some.inj hc
    exact hspace
  have hsign : strtoulSign (n.digits ++ t) = (false, n.digits ++ t) := by
    rw [hdigits]
    exact strtoulSign_of_ne hminus hplus _
  have htake : (n.digits ++ t).takeWhile Char.isDigit = n.digits := takeWhile_append_of_head n.isDigit ht
  have hvalue := n.bounded
  constructor
  · unfold strtoul32 VoxSdk.strtoul
    rw [hskip, hsign]
    dsimp only
    rw [htake, if_neg (by omega), if_neg (by decide)]
    rfl
  · unfold strtoulEnd
    rw [hskip, hsign]
    dsimp only
    rw [htake, if_neg n.ne_nil]
    exact dropWhile_append_of_head n.isDigit ht

namespace CountPair

variable (p : CountPair)

/-- Two counts are read one by one: the first up to the blanks before the slash. -/
theorem read_new {b : CStr} (hb : ∀ c ∈ b, isWsp c = true) (t : CStr) :
    strtoul32 (b ++ (p.text ++ t)) = p.new.value ∧
      strtoulEnd (b ++ (p.text ++ t)) =
        p.beforeSlash.text ++ '/' :: (p.afterSlash.text ++ (p.old.digits ++ t)) := by
  have htext : b ++ (p.text ++ t) =
      b ++ (p.new.digits ++ (p.beforeSlash.text ++ '/' :: (p.afterSlash.text ++ (p.old.digits ++ t)))) := by
    simp only [text, List.append_assoc, List.cons_append]
  rw [htext]
  exact p.new.strtoul hb (p.beforeSlash.head?_isDigit (by decide) _)

theorem read_old {t : CStr} (ht : ∀ c, t.head? = some c → c.isDigit = false) :
    strtoul32 (p.afterSlash.text ++ (p.old.digits ++ t)) = p.old.value ∧
      strtoulEnd (p.afterSlash.text ++ (p.old.digits ++ t)) = t :=
  p.old.strtoul p.afterSlash.blank ht

end CountPair

/-! ### What is read of a line -/

namespace StatusLine

/-- Nothing before the colon. -/
def found (l : StatusLine) : Bool := decide (l.beforeColon.text = [])

/-- Nothing but spaces behind it. -/
def spaced (l : StatusLine) : Bool := l.afterColon.text.all fun c => decide (c = ' ')

end StatusLine

def UrgentPart.readsNew (u : UrgentPart) : Bool := decide (u.beforeOpen.text = [' '])

def UrgentPart.readsOld (u : UrgentPart) : Bool := u.readsNew && decide (u.counts.beforeSlash.text = [])

namespace VoiceLine

def readsNew (l : VoiceLine) : Bool := decide (l.beforeColon.text = [])

def readsOld (l : VoiceLine) : Bool := l.readsNew && decide (l.counts.beforeSlash.text = [])

/-- One of the urgent counts, if it is read. -/
def urgent? (reads : UrgentPart → Bool) (value : UrgentPart → UInt32) (l : VoiceLine) : Option UInt32 :=
  if l.readsOld then (l.urgent.filter reads).map value else none

theorem urgent?_eq_some {reads : UrgentPart → Bool} {value : UrgentPart → UInt32} {l : VoiceLine} {x : UInt32} :
    l.urgent? reads value = some x ↔ l.readsOld = true ∧ ∃ u ∈ l.urgent, reads u = true ∧ value u = x := by
  unfold urgent?
  cases l.readsOld with
  | false => simp
  | true => simp [Option.filter_eq_some_iff, and_assoc]

end VoiceLine

namespace MwiLine

def waiting? (line : MwiLine) : Option Bool :=
  (line.status?.filter StatusLine.found).map fun l => l.waiting && l.spaced

def newVoice? (line : MwiLine) : Option UInt32 :=
  (line.voice?.filter VoiceLine.readsNew).map fun l => l.counts.new.value

def oldVoice? (line : MwiLine) : Option UInt32 :=
  (line.voice?.filter VoiceLine.readsOld).map fun l => l.counts.old.value

def newUrgent? (line : MwiLine) : Option UInt32 :=
  line.voice?.bind (VoiceLine.urgent? UrgentPart.readsNew fun u => u.counts.new.value)

def oldUrgent? (line : MwiLine) : Option UInt32 :=
  line.voice?.bind (VoiceLine.urgent? UrgentPart.readsOld fun u => u.counts.old.value)

/-- What is read of the line, and what is left as it was. -/
def readInto (line : MwiLine) (m : MwiCounts) : MwiCounts :=
  { messagesWaiting := line.waiting?.getD m.messagesWaiting
    newVoice := line.newVoice?.getD m.newVoice
    oldVoice := line.oldVoice?.getD m.oldVoice
    newUrgent := line.newUrgent?.getD m.newUrgent
    oldUrgent := line.oldUrgent?.getD m.oldUrgent }

theorem readInto_status (l : StatusLine) (m : MwiCounts) :
    (status l).readInto m = if l.found then { m with messagesWaiting := l.waiting && l.spaced } else m := by
  unfold readInto waiting? newVoice? oldVoice? newUrgent? oldUrgent? status? voice?
  cases hfound : l.found <;> simp [Option.filter, hfound]

theorem readInto_voice (l : VoiceLine) (m : MwiCounts) :
    (voice l).readInto m =
      if l.readsNew then
        if l.counts.beforeSlash.text = [] then
          { m with
            newVoice := l.counts.new.value
            oldVoice := l.counts.old.value
            newUrgent := ((l.urgent.filter UrgentPart.readsNew).map fun u => u.counts.new.value).getD m.newUrgent
            oldUrgent := ((l.urgent.filter UrgentPart.readsOld).map fun u => u.counts.old.value).getD m.oldUrgent }
        else { m with newVoice := l.counts.new.value }
      else m := by
  unfold readInto waiting? newVoice? oldVoice? newUrgent? oldUrgent? status? voice? VoiceLine.urgent?
  by_cases hslash : l.counts.beforeSlash.text = [] <;> cases hnew : l.readsNew <;>
    simp [Option.filter, hnew, hslash, VoiceLine.readsOld]

theorem readInto_other (l : OtherLine) (m : MwiCounts) : (other l).readInto m = m := rfl

end MwiLine

namespace MwiCounts

variable (m : MwiCounts)

/-- The end of a line opens no bracket. -/
theorem readUrgent_eol (cr : Bool) (t : CStr) : m.readUrgent (eol cr ++ t) = m := by
  unfold readUrgent
  rw [if_neg]
  rintro ⟨hhead, -⟩
  cases cr <;> cases Option.some.inj hhead

theorem readUrgent_text (u : UrgentPart) (t : CStr) :
    m.readUrgent (u.text ++ t) =
      { m with
        newUrgent := if u.readsNew then u.counts.new.value else m.newUrgent
        oldUrgent := if u.readsOld then u.counts.old.value else m.oldUrgent } := by
  have htext : u.text ++ t = u.beforeOpen.text ++ '(' ::
      (u.afterOpen.text ++ (u.counts.text ++ (u.beforeClose.text ++ ')' :: (u.afterClose.text ++ t)))) := by
    simp only [UrgentPart.text, List.append_assoc, List.cons_append]
  obtain ⟨hnew, hend⟩ := u.counts.read_new u.afterOpen.blank (u.beforeClose.text ++ ')' :: (u.afterClose.text ++ t))
  obtain ⟨hold, -⟩ := u.counts.read_old
    (u.beforeClose.head?_isDigit (c := ')') (by decide) (u.afterClose.text ++ t))
  have hopens := u.beforeOpen.opens_iff (c := '(') (by decide)
    (u.afterOpen.text ++ (u.counts.text ++ (u.beforeClose.text ++ ')' :: (u.afterClose.text ++ t))))
  unfold readUrgent UrgentPart.readsOld UrgentPart.readsNew
  rw [htext]
  by_cases hone : u.beforeOpen.text = [' ']
  · rw [if_pos (hopens.mpr ⟨hone, rfl⟩), hone]
    simp only [List.cons_append, List.nil_append, List.drop_succ_cons, List.drop_zero, hnew, hend,
      u.counts.beforeSlash.head?_append_iff (c := '/') (by decide)]
    by_cases hslash : u.counts.beforeSlash.text = []
    · simp [hslash, hold]
    · simp [hslash]
  · rw [if_neg (mt hopens.mp (fun h => hone h.1))]
    simp [hone]

/-- What is behind the two counts of a line. -/
theorem readUrgent_tail (urgent : Option UrgentPart) (cr : Bool) (t : CStr) :
    m.readUrgent (urgent.elim [] UrgentPart.text ++ (eol cr ++ t)) =
      { m with
        newUrgent := ((urgent.filter UrgentPart.readsNew).map fun u => u.counts.new.value).getD m.newUrgent
        oldUrgent := ((urgent.filter UrgentPart.readsOld).map fun u => u.counts.old.value).getD m.oldUrgent } := by
  cases urgent with
  | none => exact readUrgent_eol m cr t
  | some u =>
      rw [Option.elim_some, readUrgent_text]
      cases hnew : u.readsNew <;> cases hold : u.readsOld <;> simp [Option.filter, hnew, hold]

end MwiCounts

namespace MwiCounts

theorem readVoice_text (counts : CountPair) (urgent : Option UrgentPart) {b : CStr}
    (hb : ∀ c ∈ b, isWsp c = true) (cr : Bool) (t : CStr) (m : MwiCounts) :
    m.readVoice (b ++ (counts.text ++ (urgent.elim [] UrgentPart.text ++ (eol cr ++ t)))) =
      if counts.beforeSlash.text = [] then
        { m with
          newVoice := counts.new.value
          oldVoice := counts.old.value
          newUrgent := ((urgent.filter UrgentPart.readsNew).map fun u => u.counts.new.value).getD m.newUrgent
          oldUrgent := ((urgent.filter UrgentPart.readsOld).map fun u => u.counts.old.value).getD m.oldUrgent }
      else { m with newVoice := counts.new.value } := by
  have htail : ∀ c, (urgent.elim [] UrgentPart.text ++ (eol cr ++ t)).head? = some c → c.isDigit = false := by
    intro c hc
    cases urgent with
    | none => cases cr <;> obtain rfl := Option.some.inj hc <;> decide
    | some u =>
        rw [Option.elim_some, UrgentPart.text, List.append_assoc, List.cons_append] at hc
        exact u.beforeOpen.head?_isDigit (by decide) _ c hc
  obtain ⟨hnew, hend⟩ := counts.read_new hb (urgent.elim [] UrgentPart.text ++ (eol cr ++ t))
  obtain ⟨hold, hend'⟩ := counts.read_old htail
  unfold readVoice
  dsimp only
  rw [hnew, hend]
  by_cases hslash : counts.beforeSlash.text = []
  · rw [if_pos ((counts.beforeSlash.head?_append_iff (by decide) _).mpr hslash), if_pos hslash, hslash,
      List.nil_append, List.tail_cons, hold, hend', readUrgent_tail]
  · rw [if_neg (mt (counts.beforeSlash.head?_append_iff (by decide) _).mp hslash), if_neg hslash]
    -- What stands before the slash is no space with a bracket behind it.
    unfold readUrgent
    rw [if_neg]
    intro hopens
    exact absurd ((counts.beforeSlash.opens_iff (by decide) _).mp hopens).2 (by decide)

end MwiCounts

/-! ### Header names -/

theorem startsWithCase_cons (a c : Char) (p s : CStr) :
    startsWithCase (a :: p) (c :: s) = (decide (c.toLower = a) && startsWithCase p s) := by
  unfold startsWithCase
  rw [List.length_cons, List.take_succ_cons, List.map_cons, ← Bool.decide_and]
  exact decide_eq_decide.mpr List.cons_eq_cons

namespace Spelling

variable {word : String}

theorem startsWithCase (w : Spelling word) (p t : CStr) :
    startsWithCase (word.toList ++ p) (w.text ++ t) = VoxSdk.startsWithCase p t := by
  have hlength : w.text.length = word.toList.length := by
    rw [← w.lower, List.length_map]
  unfold VoxSdk.startsWithCase
  rw [List.length_append, ← hlength, List.take_length_add_append, List.map_append, w.lower]
  exact decide_eq_decide.mpr (List.append_right_inj _)

end Spelling

theorem eq_colon_of_toLower {c : Char} (h : c.toLower = ':') : c = ':' := by
  unfold Char.toLower at h
  split at h
  · rename_i hupper
    have hval : c.val + 32 = 58 := congrArg Char.val h
    obtain ⟨hlow, hhigh⟩ := hupper
    have hlow' : 65 ≤ c.val.toNat := hlow
    have hhigh' : c.val.toNat ≤ 90 := hhigh
    have hsum := congrArg UInt32.toNat hval
    rw [UInt32.toNat_add] at hsum
    change (c.val.toNat + 32) % 2 ^ 32 = 58 at hsum
    omega
  · exact h

theorem namesHeader_of_startsWithCase {header : String} {text : CStr}
    (h : startsWithCase (header.toList ++ [':']) text = true) : namesHeader header text = true := by
  have hprefix := of_decide_eq_true h
  rw [List.length_append, List.length_singleton, List.take_add, List.map_append] at hprefix
  obtain ⟨hname, hcolon⟩ := List.append_inj' hprefix (by
    have hlength := congrArg List.length hprefix
    simp only [List.length_append, List.length_map, List.length_take, List.length_drop, List.length_singleton] at *
    omega)
  unfold namesHeader
  rw [startsWithCase, decide_eq_true hname, Bool.true_and]
  cases hrest : text.drop header.toList.length with
  | nil =>
      rw [hrest] at hcolon
      cases hcolon
  | cons c rest =>
      rw [hrest] at hcolon
      obtain rfl : c = ':' := eq_colon_of_toLower (List.cons.inj hcolon).1
      rfl

/-- A header is found when nothing stands before the colon. -/
theorem startsWithCase_header {word : String} (w : Spelling word) (b : Blanks) (t : CStr) :
    startsWithCase (word.toList ++ [':']) (w.text ++ (b.text ++ ':' :: t)) = decide (b.text = []) := by
  rw [w.startsWithCase]
  obtain ⟨text, hblank⟩ := b
  cases text with
  | nil => rfl
  | cons c text =>
      obtain rfl | rfl := isWsp_iff.mp (hblank c List.mem_cons_self)
      · rfl
      · rfl

/-- A line of another header is not. -/
theorem startsWithCase_other {word : String} (w : Spelling word) {header : CStr} {a c : Char}
    (hheader : header.head? = some a) (hword : word.toList.head? = some c) (hne : c ≠ a) (t : CStr) :
    startsWithCase header (w.text ++ t) = false := by
  obtain ⟨text, hlower⟩ := w
  obtain ⟨header, rfl⟩ := List.head?_eq_some_iff.mp hheader
  rw [← hlower, List.head?_map] at hword
  obtain ⟨c', hhead, rfl⟩ := Option.map_eq_some_iff.mp hword
  obtain ⟨text, rfl⟩ := List.head?_eq_some_iff.mp hhead
  rw [List.cons_append, startsWithCase_cons, decide_eq_false hne, Bool.false_and]

/-- What stands behind the name and the colon. -/
theorem drop_header {word : String} (w : Spelling word) {n : Nat} (hn : n = word.toList.length + 1) (t : CStr) :
    (w.text ++ ':' :: t).drop n = t := by
  have hlength : (w.text ++ [':']).length = n := by
    rw [List.length_append, List.length_singleton, hn, ← w.lower, List.length_map]
  rw [← List.singleton_append, ← List.append_assoc]
  exact List.drop_left' hlength

/-- Of blanks, those behind the first spaces are left. -/
theorem Blanks.dropWhile_space (b : Blanks) {c : Char} (hc : c ≠ ' ') (t : CStr) :
    (b.text ++ c :: t).dropWhile (fun a => decide (a = ' ')) =
        b.text.dropWhile (fun a => decide (a = ' ')) ++ c :: t ∧
      ∀ a ∈ b.text.dropWhile (fun a => decide (a = ' ')), isWsp a = true := by
  refine ⟨dropWhile_append_stop (by simp [hc]) _ _, ?_⟩
  intro a ha
  exact b.blank a ((List.dropWhile_sublist _).subset ha)

/-- A status does not begin with a space. -/
theorem StatusLine.exists_status (l : StatusLine) : ∃ c status, l.status.text = c :: status ∧ c ≠ ' ' := by
  obtain ⟨-, -, -, waiting, ⟨text, hlower⟩⟩ := l
  cases text with
  | nil => cases waiting <;> exact absurd hlower (by decide)
  | cons c text =>
      refine ⟨c, text, rfl, ?_⟩
      rintro rfl
      cases waiting <;> cases hlower

theorem StatusLine.startsWithCase_yes (l : StatusLine) (cr : Bool) (t : CStr) :
    startsWithCase "yes".toList (l.status.text ++ (eol cr ++ t)) = l.waiting := by
  obtain ⟨-, -, -, waiting, status⟩ := l
  cases waiting with
  | true =>
      have hyes := status.startsWithCase [] (eol cr ++ t)
      rw [List.append_nil] at hyes
      exact hyes.trans rfl
  | false => exact startsWithCase_other status (a := 'y') (c := 'n') (by decide) (by decide) (by decide) _

namespace MwiCounts

variable (m : MwiCounts)

theorem readStatus_text (l : StatusLine) (cr : Bool) (t : CStr) :
    m.readStatus ((l.afterColon.text ++ (l.status.text ++ (eol cr ++ t))).dropWhile fun a => decide (a = ' ')) =
      { m with messagesWaiting := l.waiting && l.spaced } := by
  obtain ⟨c, status, hstatus, hspace⟩ := l.exists_status
  obtain ⟨hskip, hblank⟩ := l.afterColon.dropWhile_space hspace (status ++ (eol cr ++ t))
  unfold readStatus
  rw [hstatus, List.cons_append, hskip, StatusLine.spaced]
  congr 1
  cases hleft : l.afterColon.text.dropWhile fun a => decide (a = ' ') with
  | nil =>
      have hspaces := List.all_eq_true.mpr (List.dropWhile_eq_nil_iff.mp hleft)
      rw [hspaces, Bool.and_true, List.nil_append, ← List.cons_append, ← hstatus]
      exact l.startsWithCase_yes cr t
  | cons a left =>
      -- A tab, which no status begins with.
      have hhead : a ≠ ' ' := by
        have hstop := List.head?_dropWhile_not (fun a => decide (a = ' ')) l.afterColon.text
        rw [hleft] at hstop
        simpa using hstop
      obtain rfl : a = '\t' :=
        (isWsp_iff.mp (hblank a (by rw [hleft]; exact List.mem_cons_self))).resolve_left hhead
      have htab : '\t' ∈ l.afterColon.text := by
        apply (List.dropWhile_sublist fun a => decide (a = ' ')).subset
        rw [hleft]
        exact List.mem_cons_self
      have hnot : (l.afterColon.text.all fun a => decide (a = ' ')) = false :=
        List.all_eq_false.mpr ⟨'\t', htab, by decide⟩
      rw [hnot, Bool.and_false]
      rfl

theorem parseLine_status (l : StatusLine) (cr : Bool) (t : CStr) :
    (m.parseLine (l.text ++ (eol cr ++ t))).1 = (MwiLine.status l).readInto m := by
  have htext : l.text ++ (eol cr ++ t) = l.name.text ++ (l.beforeColon.text ++
      ':' :: (l.afterColon.text ++ (l.status.text ++ (eol cr ++ t)))) := by
    simp only [StatusLine.text, List.append_assoc, List.cons_append]
  have hname : "messages-waiting:".toList = "messages-waiting".toList ++ [':'] := by decide
  have hother : startsWithCase "voice-message:".toList (l.text ++ (eol cr ++ t)) = false := by
    rw [htext]
    exact startsWithCase_other l.name (a := 'v') (c := 'm') (by decide) (by decide) (by decide) _
  unfold parseLine
  rw [hother, htext, hname, startsWithCase_header, MwiLine.readInto_status, StatusLine.found]
  by_cases hcolon : l.beforeColon.text = []
  · rw [if_pos (decide_eq_true hcolon), if_pos (decide_eq_true hcolon), hcolon, List.nil_append,
      drop_header l.name (by decide)]
    exact readStatus_text m l cr t
  · rw [decide_eq_false hcolon]
    rfl

theorem parseLine_voice (l : VoiceLine) (cr : Bool) (t : CStr) :
    (m.parseLine (l.text ++ (eol cr ++ t))).1 = (MwiLine.voice l).readInto m := by
  have htext : l.text ++ (eol cr ++ t) = l.name.text ++ (l.beforeColon.text ++
      ':' :: (l.afterColon.text ++ (l.counts.text ++ (l.urgent.elim [] UrgentPart.text ++ (eol cr ++ t))))) := by
    simp only [VoiceLine.text, List.append_assoc, List.cons_append]
  have hname : "voice-message:".toList = "voice-message".toList ++ [':'] := by decide
  have hother : startsWithCase "messages-waiting:".toList (l.text ++ (eol cr ++ t)) = false := by
    rw [htext]
    exact startsWithCase_other l.name (a := 'm') (c := 'v') (by decide) (by decide) (by decide) _
  unfold parseLine
  rw [hother, htext, hname, startsWithCase_header, MwiLine.readInto_voice, VoiceLine.readsNew]
  by_cases hcolon : l.beforeColon.text = []
  · rw [if_neg (by decide), if_pos (decide_eq_true hcolon), if_pos (decide_eq_true hcolon), hcolon, List.nil_append,
      drop_header l.name (by decide)]
    dsimp only
    -- The spaces behind the colon are skipped here, the other blanks by `strtoul`.
    obtain ⟨d, ds, hdigits⟩ := List.exists_cons_of_ne_nil l.counts.new.ne_nil
    have hd : d ≠ ' ' := by
      rintro rfl
      exact absurd (l.counts.new.isDigit ' ' (by rw [hdigits]; exact List.mem_cons_self)) (by decide)
    obtain ⟨rest, hcounts⟩ : ∃ rest, l.counts.text = d :: rest := by
      rw [CountPair.text, hdigits]
      exact ⟨_, rfl⟩
    obtain ⟨hskip, hblank⟩ := l.afterColon.dropWhile_space hd
      (rest ++ (l.urgent.elim [] UrgentPart.text ++ (eol cr ++ t)))
    rw [← List.cons_append, ← hcounts] at hskip
    rw [hskip]
    exact readVoice_text l.counts l.urgent hblank cr t m
  · rw [decide_eq_false hcolon]
    rfl

theorem parseLine_other (l : OtherLine) (cr : Bool) (t : CStr) :
    (m.parseLine (l.text ++ (eol cr ++ t))).1 = m := by
  have hother : ∀ header : String, '\r' ∉ header.toList ∧ '\n' ∉ header.toList →
      namesHeader header l.text = false →
      startsWithCase (header.toList ++ [':']) (l.text ++ (eol cr ++ t)) = false := by
    rintro header ⟨hreturn, hnewline⟩ hnames
    have hstop : startsWithCase (header.toList ++ [':']) (l.text ++ (eol cr ++ t)) =
        startsWithCase (header.toList ++ [':']) l.text := by
      cases cr with
      | true => exact startsWithCase_append_stop (c := '\r') (by simpa using hreturn) _ _
      | false => exact startsWithCase_append_stop (c := '\n') (by simpa using hnewline) _ _
    rw [hstop, Bool.eq_false_iff]
    intro hfound
    rw [namesHeader_of_startsWithCase hfound] at hnames
    cases hnames
  have hstatus : "messages-waiting:".toList = "messages-waiting".toList ++ [':'] := by decide
  have hvoice : "voice-message:".toList = "voice-message".toList ++ [':'] := by decide
  unfold parseLine
  rw [hstatus, hvoice, hother _ (by decide) l.status, hother _ (by decide) l.voice]
  rfl

/-- What one round makes of a line. -/
theorem parseLine_text (line : MwiLine) (cr : Bool) (t : CStr) :
    (m.parseLine (line.text ++ (eol cr ++ t))).1 = line.readInto m := by
  cases line with
  | status l => exact parseLine_status m l cr t
  | voice l => exact parseLine_voice m l cr t
  | other l =>
      rw [MwiLine.readInto_other]
      exact parseLine_other m l cr t

end MwiCounts

/-! ### The lines of a body -/

theorem Spelling.newline_notMem {word : String} (w : Spelling word) (h : '\n' ∉ word.toList) : '\n' ∉ w.text := by
  intro hmem
  have hlower : ('\n').toLower ∈ w.text.map Char.toLower := List.mem_map_of_mem hmem
  rw [w.lower] at hlower
  exact h hlower

theorem Blanks.newline_notMem (b : Blanks) : '\n' ∉ b.text :=
  fun hmem => absurd (b.blank _ hmem) (by decide)

theorem MsgCount.newline_notMem (n : MsgCount) : '\n' ∉ n.digits :=
  fun hmem => absurd (n.isDigit _ hmem) (by decide)

theorem CountPair.newline_notMem (p : CountPair) : '\n' ∉ p.text := by
  simp [CountPair.text, p.new.newline_notMem, p.old.newline_notMem, p.beforeSlash.newline_notMem,
    p.afterSlash.newline_notMem]

theorem UrgentPart.newline_notMem (u : UrgentPart) : '\n' ∉ u.text := by
  simp [UrgentPart.text, u.counts.newline_notMem, u.beforeOpen.newline_notMem, u.afterOpen.newline_notMem,
    u.beforeClose.newline_notMem, u.afterClose.newline_notMem]

theorem MwiLine.newline_notMem (line : MwiLine) : '\n' ∉ line.text := by
  cases line with
  | status l =>
      have hstatus : '\n' ∉ l.status.text := l.status.newline_notMem (by cases l.waiting <;> decide)
      simp [MwiLine.text, StatusLine.text, l.name.newline_notMem (by decide), hstatus, l.beforeColon.newline_notMem,
        l.afterColon.newline_notMem]
  | voice l =>
      have hurgent : '\n' ∉ l.urgent.elim [] UrgentPart.text := by
        cases l.urgent with
        | none => exact List.not_mem_nil
        | some u => exact u.newline_notMem
      simp [MwiLine.text, VoiceLine.text, l.name.newline_notMem (by decide), hurgent, l.counts.newline_notMem,
        l.beforeColon.newline_notMem, l.afterColon.newline_notMem]
  | other l => exact l.newline

theorem past_line (line : MwiLine) (cr : Bool) (t : CStr) : past '\n' (line.text ++ (eol cr ++ t)) = t := by
  rw [past_append_of_notMem line.newline_notMem]
  cases cr <;> rfl

namespace MwiCounts

variable {m : MwiCounts}

/-- What a round skips holds no end of a line. -/
theorem past_skip {header p : CStr} (hheader : '\n' ∉ header) {n : Nat} (hn : n = header.length)
    (h : startsWithCase header p = true) :
    past '\n' ((p.drop n).dropWhile fun c => decide (c = ' ')) = past '\n' p := by
  have hname : '\n' ∉ p.take n := by
    intro hmem
    have hlower : ('\n').toLower ∈ (p.take n).map Char.toLower := List.mem_map_of_mem hmem
    rw [hn, of_decide_eq_true h] at hlower
    exact hheader hlower
  have hspaces : '\n' ∉ (p.drop n).takeWhile fun c => decide (c = ' ') :=
    fun hmem => absurd (List.mem_takeWhile_imp hmem) (by decide)
  calc
    past '\n' ((p.drop n).dropWhile fun c => decide (c = ' ')) = past '\n' (p.drop n) := by
      rw [← past_append_of_notMem hspaces, List.takeWhile_append_dropWhile]
    _ = past '\n' p := by rw [← past_append_of_notMem hname, List.take_append_drop]

theorem past_parseLine (p : CStr) : past '\n' (m.parseLine p).2 = past '\n' p := by
  unfold parseLine
  split
  · rename_i hstatus
    exact past_skip (by decide) (by decide) hstatus
  · split
    · rename_i hvoice
      exact past_skip (by decide) (by decide) hvoice
    · rfl

theorem parseRounds_cons {p : CStr} (hp : p ≠ []) (rounds : Nat) :
    parseRounds (rounds + 1) p m = parseRounds rounds (past '\n' p) (m.parseLine p).1 := by
  cases p with
  | nil => exact absurd rfl hp
  | cons c p =>
      rw [parseRounds, past_parseLine]

/-- With a round for each character the end of the body is reached. -/
theorem parseRounds_eq {rounds rounds' : Nat} {p : CStr} (h : p.length ≤ rounds) (h' : p.length ≤ rounds') :
    parseRounds rounds p m = parseRounds rounds' p m := by
  induction rounds generalizing rounds' p m with
  | zero =>
      obtain rfl : p = [] := List.length_eq_zero_iff.mp (Nat.le_zero.mp h)
      cases rounds' <;> rfl
  | succ rounds ih =>
      by_cases hp : p = []
      · rw [hp]
        cases rounds' <;> rfl
      · have hlength : 0 < p.length := List.length_pos_iff.mpr hp
        obtain ⟨rounds', rfl⟩ : ∃ k, rounds' = k + 1 := ⟨rounds' - 1, by omega⟩
        have hpast : (past '\n' p).length < p.length := length_past_lt hp
        rw [parseRounds_cons hp, parseRounds_cons hp]
        exact ih (by omega) (by omega)

/-- The lines of a body are read one after the other. -/
theorem parseRounds_text (body : MwiBody) :
    parseRounds (MwiBody.text body).length (MwiBody.text body) m =
      body.foldl (fun m line => line.1.readInto m) m := by
  induction body generalizing m with
  | nil => rfl
  | cons line body ih =>
      obtain ⟨line, cr⟩ := line
      have htext : MwiBody.text ((line, cr) :: body) = line.text ++ (eol cr ++ MwiBody.text body) := by
        rw [MwiBody.text, List.flatMap_cons, List.append_assoc]
        rfl
      have heol : 0 < (eol cr).length := by cases cr <;> decide
      have hlength : (MwiBody.text body).length < (MwiBody.text ((line, cr) :: body)).length := by
        rw [htext, List.length_append, List.length_append]
        omega
      have hne : MwiBody.text ((line, cr) :: body) ≠ [] := by
        intro hnil
        rw [hnil] at hlength
        exact Nat.not_lt_zero _ hlength
      obtain ⟨rounds, hrounds⟩ : ∃ k, (MwiBody.text ((line, cr) :: body)).length = k + 1 :=
        ⟨(MwiBody.text ((line, cr) :: body)).length - 1, by omega⟩
      rw [hrounds, parseRounds_cons hne, htext, past_line, parseLine_text, List.foldl_cons, ← ih]
      exact parseRounds_eq (by omega) le_rfl

end MwiCounts

/-! ### What a body is read as -/

/-- What is set by some and left by the others is as the last of those who set it have set it. -/
theorem foldl_getLast? {σ α β : Type*} (f : σ → β) (next : σ → α → σ) (sets : α → Option β)
    (h : ∀ s a, f (next s a) = (sets a).getD (f s)) (xs : List α) (s : σ) :
    f (xs.foldl next s) = (xs.filterMap sets).getLast?.getD (f s) := by
  induction xs generalizing s with
  | nil => rfl
  | cons a xs ih =>
      rw [List.foldl_cons, ih, h, List.filterMap_cons]
      cases sets a with
      | none => rfl
      | some b => rw [List.getLast?_cons, Option.getD_some, Option.getD_some]

/-- Who is asked for a value that is not the default has to have been heard. -/
theorem Stated.getLast?_iff {α : Type*} {d x : α} {xs ys : List α} (h : Stated d xs x)
    (hsub : ∀ y ∈ ys, y ∈ xs) : ys.getLast?.getD d = x ↔ x = d ∨ ys ≠ [] := by
  cases hlast : ys.getLast? with
  | none =>
      have hnil : ys = [] := List.getLast?_eq_none_iff.mp hlast
      rw [Option.getD_none]
      constructor
      · exact fun heq => .inl heq.symm
      · rintro (heq | hne)
        · exact heq.symm
        · exact absurd hnil hne
  | some y =>
      have hmem : y ∈ ys := List.mem_of_getLast? hlast
      refine iff_of_true (h.1 y (hsub y hmem)) (.inr ?_)
      exact List.ne_nil_of_mem hmem

theorem MwiCounts.eq_iff {m m' : MwiCounts} :
    m = m' ↔ m.messagesWaiting = m'.messagesWaiting ∧ m.newVoice = m'.newVoice ∧ m.oldVoice = m'.oldVoice ∧
      m.newUrgent = m'.newUrgent ∧ m.oldUrgent = m'.oldUrgent := by
  cases m
  cases m'
  exact MwiCounts.mk.injEq .. ▸ Iff.rfl

namespace MwiBody

variable {body : MwiBody} {m : MwiCounts}

/-- Whatever the body states that is not the default, there is a line it is read from; for the status, that is
the last that is found. -/
structure Readable (body : MwiBody) (m : MwiCounts) : Prop where
  messagesWaiting : m.messagesWaiting = false ∨
    ∃ l, (body.statuses.filter StatusLine.found).getLast? = some l ∧ l.spaced = true
  newVoice : m.newVoice = 0 ∨ ∃ l ∈ body.voices, l.readsNew = true
  oldVoice : m.oldVoice = 0 ∨ ∃ l ∈ body.voices, l.readsOld = true
  newUrgent : m.newUrgent = 0 ∨ ∃ l ∈ body.voices, l.readsOld = true ∧ ∃ u ∈ l.urgent, u.readsNew = true
  oldUrgent : m.oldUrgent = 0 ∨ ∃ l ∈ body.voices, l.readsOld = true ∧ ∃ u ∈ l.urgent, u.readsOld = true

/-- Of each value, what the last line says that it is read from. -/
theorem parse_text (body : MwiBody) :
    parseMwiBody body.text =
      { messagesWaiting := (((body.statuses.filter StatusLine.found).map fun l => l.waiting && l.spaced).getLast?).getD
          false
        newVoice := (((body.voices.filter VoiceLine.readsNew).map fun l => l.counts.new.value).getLast?).getD 0
        oldVoice := (((body.voices.filter VoiceLine.readsOld).map fun l => l.counts.old.value).getLast?).getD 0
        newUrgent := ((body.voices.filterMap
          (VoiceLine.urgent? UrgentPart.readsNew fun u => u.counts.new.value)).getLast?).getD 0
        oldUrgent := ((body.voices.filterMap
          (VoiceLine.urgent? UrgentPart.readsOld fun u => u.counts.old.value)).getLast?).getD 0 } := by
  have hread {β : Type} (f : MwiCounts → β) (sets : MwiLine → Option β)
      (h : ∀ m line, f (MwiLine.readInto line m) = (sets line).getD (f m)) :
      f (parseMwiBody body.text) = ((body.filterMap fun line => sets line.1).getLast?).getD (f .zero) := by
    rw [parseMwiBody, MwiCounts.parseRounds_text]
    exact foldl_getLast? f _ (fun line => sets line.1) (fun m line => h m line.1) body .zero
  unfold statuses voices
  simp only [List.filter_filterMap, List.map_filterMap, List.filterMap_filterMap]
  apply MwiCounts.eq_iff.mpr
  exact ⟨hread MwiCounts.messagesWaiting MwiLine.waiting? fun _ _ => rfl,
    hread MwiCounts.newVoice MwiLine.newVoice? fun _ _ => rfl,
    hread MwiCounts.oldVoice MwiLine.oldVoice? fun _ _ => rfl,
    hread MwiCounts.newUrgent MwiLine.newUrgent? fun _ _ => rfl,
    hread MwiCounts.oldUrgent MwiLine.oldUrgent? fun _ _ => rfl⟩

theorem waiting_iff (h : body.States m) :
    (((body.statuses.filter StatusLine.found).map fun l => l.waiting && l.spaced).getLast?).getD false =
        m.messagesWaiting ↔
      m.messagesWaiting = false ∨
        ∃ l, (body.statuses.filter StatusLine.found).getLast? = some l ∧ l.spaced = true := by
  rw [List.getLast?_map]
  cases hlast : (body.statuses.filter StatusLine.found).getLast? with
  | none =>
      rw [Option.map_none, Option.getD_none]
      constructor
      · exact fun heq => .inl heq.symm
      · rintro (heq | ⟨l, hl, -⟩)
        · exact heq.symm
        · cases hl
  | some l =>
      have hmem := List.mem_of_getLast? hlast
      have hstated : l.waiting = m.messagesWaiting :=
        h.messagesWaiting.1 _ (List.mem_map_of_mem (List.mem_of_mem_filter hmem))
      rw [Option.map_some, Option.getD_some, hstated]
      cases m.messagesWaiting <;> simp

theorem voice_iff {reads : VoiceLine → Bool} {value : VoiceLine → UInt32} {x : UInt32}
    (h : Stated 0 (body.voices.map value) x) :
    (((body.voices.filter reads).map value).getLast?).getD 0 = x ↔
      x = 0 ∨ ∃ l ∈ body.voices, reads l = true := by
  rw [h.getLast?_iff]
  · simp [List.filter_eq_nil_iff]
  · intro y hy
    obtain ⟨l, hl, rfl⟩ := List.mem_map.mp hy
    exact List.mem_map_of_mem (List.mem_of_mem_filter hl)

theorem urgent_iff {reads : UrgentPart → Bool} {value : UrgentPart → UInt32} {x : UInt32}
    (h : Stated 0 (body.urgents.map value) x) :
    ((body.voices.filterMap (VoiceLine.urgent? reads value)).getLast?).getD 0 = x ↔
      x = 0 ∨ ∃ l ∈ body.voices, l.readsOld = true ∧ ∃ u ∈ l.urgent, reads u = true := by
  rw [h.getLast?_iff]
  · apply or_congr_right
    constructor
    · intro hne
      obtain ⟨y, hy⟩ := List.exists_mem_of_ne_nil _ hne
      obtain ⟨l, hl, hread⟩ := List.mem_filterMap.mp hy
      obtain ⟨hold, u, hu, hreads, -⟩ := VoiceLine.urgent?_eq_some.mp hread
      exact ⟨l, hl, hold, u, hu, hreads⟩
    · rintro ⟨l, hl, hold, u, hu, hreads⟩
      have hread : l.urgent? reads value = some (value u) :=
        VoiceLine.urgent?_eq_some.mpr ⟨hold, u, hu, hreads, rfl⟩
      exact List.ne_nil_of_mem (List.mem_filterMap.mpr ⟨l, hl, hread⟩)
  · intro y hy
    obtain ⟨l, hl, hread⟩ := List.mem_filterMap.mp hy
    obtain ⟨-, u, hu, -, rfl⟩ := VoiceLine.urgent?_eq_some.mp hread
    exact List.mem_map_of_mem (List.mem_filterMap.mpr ⟨l, hl, hu⟩)

theorem parse_eq_iff (h : body.States m) : parseMwiBody body.text = m ↔ body.Readable m := by
  rw [parse_text, MwiCounts.eq_iff, waiting_iff h, voice_iff h.newVoice, voice_iff h.oldVoice,
    urgent_iff h.newUrgent, urgent_iff h.oldUrgent]
  constructor
  · rintro ⟨hwaiting, hnew, hold, hnewUrgent, holdUrgent⟩
    exact ⟨hwaiting, hnew, hold, hnewUrgent, holdUrgent⟩
  · rintro ⟨hwaiting, hnew, hold, hnewUrgent, holdUrgent⟩
    exact ⟨hwaiting, hnew, hold, hnewUrgent, holdUrgent⟩

end MwiBody

/-! ### A summary that is rendered -/

def Blanks.none : Blanks := { text := [], blank := by simp }

def Blanks.space : Blanks where
  text := [' ']
  blank c hc := by
    obtain rfl := List.mem_singleton.mp hc
    decide

theorem ofDigitChars_renderCount (x : UInt32) : Nat.ofDigitChars 10 (renderCount x) 0 = x.toNat := by
  rw [renderCount, Nat.toList_repr, Nat.ofDigitChars_ten_toDigits]

def MsgCount.render (x : UInt32) : MsgCount where
  digits := renderCount x
  isDigit := digits_repr x.toNat
  ne_nil := repr_ne_nil x.toNat
  bounded := by
    rw [ofDigitChars_renderCount]
    exact x.toNat_lt

theorem MsgCount.value_render (x : UInt32) : (MsgCount.render x).value = x :=
  (congrArg UInt32.ofNat (ofDigitChars_renderCount x)).trans UInt32.ofNat_toNat

def CountPair.render (new old : UInt32) : CountPair :=
  { new := .render new, beforeSlash := .none, afterSlash := .none, old := .render old }

namespace MwiBody

/-- A status line and a voice line, with these blanks before the bracket. -/
def render (beforeOpen : Blanks) (m : MwiCounts) : MwiBody :=
  [(.status {
      name := { text := "Messages-Waiting".toList, lower := by decide }
      beforeColon := .none
      afterColon := .space
      waiting := m.messagesWaiting
      status := {
        text := (if m.messagesWaiting then "yes" else "no").toList
        lower := by cases m.messagesWaiting <;> decide } }, true),
    (.voice {
      name := { text := "Voice-Message".toList, lower := by decide }
      beforeColon := .none
      afterColon := .space
      counts := .render m.newVoice m.oldVoice
      urgent := some {
        beforeOpen
        afterOpen := .none
        counts := .render m.newUrgent m.oldUrgent
        beforeClose := .none
        afterClose := .none } }, true)]

theorem states_render (beforeOpen : Blanks) (m : MwiCounts) : (render beforeOpen m).States m where
  messagesWaiting := ⟨by simp [render, statuses, MwiLine.status?], fun h => by cases h⟩
  newVoice := ⟨by simp [render, voices, MwiLine.voice?, CountPair.render, MsgCount.value_render],
    fun h => by cases h⟩
  oldVoice := ⟨by simp [render, voices, MwiLine.voice?, CountPair.render, MsgCount.value_render],
    fun h => by cases h⟩
  newUrgent := ⟨by simp [render, urgents, voices, MwiLine.voice?, CountPair.render, MsgCount.value_render],
    fun h => by cases h⟩
  oldUrgent := ⟨by simp [render, urgents, voices, MwiLine.voice?, CountPair.render, MsgCount.value_render],
    fun h => by cases h⟩

theorem readable_render (m : MwiCounts) : (render .space m).Readable m where
  messagesWaiting := .inr ⟨_, rfl, rfl⟩
  newVoice := .inr ⟨_, List.mem_singleton_self _, rfl⟩
  oldVoice := .inr ⟨_, List.mem_singleton_self _, rfl⟩
  newUrgent := .inr ⟨_, List.mem_singleton_self _, rfl, _, rfl, rfl⟩
  oldUrgent := .inr ⟨_, List.mem_singleton_self _, rfl, _, rfl, rfl⟩

theorem text_render (m : MwiCounts) : (render .space m).text = renderSummary m := by
  have hstatus : "Messages-Waiting: ".toList = "Messages-Waiting".toList ++ [':', ' '] := by decide
  have hvoice : "\r\nVoice-Message: ".toList = '\r' :: '\n' :: ("Voice-Message".toList ++ [':', ' ']) := by decide
  have hopen : " (".toList = [' ', '('] := by decide
  have hclose : ")\r\n".toList = [')', '\r', '\n'] := by decide
  unfold renderSummary
  rw [hstatus, hvoice, hopen, hclose]
  simp only [text, render, MwiLine.text, StatusLine.text, VoiceLine.text, CountPair.text, UrgentPart.text,
    CountPair.render, MsgCount.render, Blanks.none, Blanks.space, eol, if_true, Option.elim_some, List.flatMap_cons,
    List.flatMap_nil, List.append_assoc, List.cons_append, List.nil_append, List.append_nil]

end MwiBody

/-- **The message summary.** A summary that is rendered the way the comment of `parse_mwi_body` has it is read
back. And of any body that states `m`, it makes `m` just when each value that is not the default stands in a line it
is read from. -/
theorem mwi_summary_parsed_iff (m : MwiCounts) :
    parseMwiBody (renderSummary m) = m ∧
      ∀ body : MwiBody, body.States m → (parseMwiBody body.text = m ↔ body.Readable m) := by
  refine ⟨?_, fun body h => MwiBody.parse_eq_iff h⟩
  rw [← MwiBody.text_render]
  exact (MwiBody.parse_eq_iff (MwiBody.states_render .space m)).mpr (MwiBody.readable_render m)

/-- One that is read, and one with the counts of urgent messages right behind the others, which is not. -/
theorem mwi_summary_parsed_iff_space :
    (∀ b : Blanks, (MwiBody.render b ⟨true, 2, 4, 0, 1⟩).States ⟨true, 2, 4, 0, 1⟩) ∧
      parseMwiBody (MwiBody.render .space ⟨true, 2, 4, 0, 1⟩).text = ⟨true, 2, 4, 0, 1⟩ ∧
      parseMwiBody (MwiBody.render .none ⟨true, 2, 4, 0, 1⟩).text ≠ ⟨true, 2, 4, 0, 1⟩ := by
  have hstates : ∀ b : Blanks, (MwiBody.render b ⟨true, 2, 4, 0, 1⟩).States ⟨true, 2, 4, 0, 1⟩ :=
    fun b => MwiBody.states_render b _
  refine ⟨hstates, ((mwi_summary_parsed_iff _).2 _ (hstates .space)).mpr (MwiBody.readable_render _), ?_⟩
  intro hread
  obtain ⟨-, -, -, -, holdUrgent⟩ := ((mwi_summary_parsed_iff _).2 _ (hstates .none)).mp hread
  revert holdUrgent
  simp [MwiBody.render, MwiBody.voices, MwiLine.voice?, UrgentPart.readsOld, UrgentPart.readsNew, Blanks.none]

/-- `2/4(0/1)`: the urgent message is not counted. -/
theorem mwi_urgent_not_counted :
    ∃ (body : MwiBody) (m : MwiCounts),
      body.text = "Messages-Waiting: yes\r\nVoice-Message: 2/4(0/1)\r\n".toList ∧ body.States m ∧
        m.oldUrgent = 1 ∧ (parseMwiBody body.text).oldUrgent = 0 :=
  ⟨MwiBody.render .none ⟨true, 2, 4, 0, 1⟩, ⟨true, 2, 4, 0, 1⟩, by decide +kernel, MwiBody.states_render _ _, rfl,
    by decide +kernel⟩

end VoxSdk
