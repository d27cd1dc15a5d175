import VoxSdk.Outbound

/-!
# What the derived outbound URI names

`create_fn` always makes a server URL up, so `server_host` and `server_port` are never asked; `sip:` stands
for TCP and for UDP; and a host is read up to its first colon. The outbound URI is compared with what the
configuration asks for after it has been decoded again.
-/

namespace VoxSdk

open Text

/-- A character of a host name, an IPv4 or an IPv6 address. -/
def isHostChar (c : Char) : Bool := c.isAlphanum || c = '-' || c = '.' || c = ':'

/-- A host name or an address, without brackets. -/
structure HostText where
  text : CStr
  nonempty : text ≠ []
  short : text.length ≤ 253
  wf : ∀ c ∈ text, isHostChar c = true

/-- An IPv6 address. -/
def addressHost : HostText where
  text := "2001:db8::1".toList
  nonempty := by decide
  short := by decide
  wf := List.all_eq_true.mp rfl

/-- A host as a URI writes it: an address with colons stands in brackets. -/
def bracketed (host : CStr) : CStr :=
  if ':' ∈ host ∧ host.head? ≠ some '[' then '[' :: host ++ [']'] else host

/-- A login URI. `login` is all that stands before the '@', a scheme included, and `params` the URI
parameters. -/
structure LoginUri where
  login : CStr
  host : HostText
  port : Option Nat
  params : CStr
  login_wf : '@' ∉ login
  port_wf : ∀ p ∈ port, 0 < p ∧ p < 2 ^ 16
  params_wf : params = [] ∨ params.head? = some ';'

/-- `:port`, or nothing. -/
def portText : Option Nat → CStr
  | none => []
  | some p => ':' :: (Nat.repr p).toList

theorem noPort_wf : ∀ p ∈ (none : Option Nat), 0 < p ∧ p < 2 ^ 16 := by simp

theorem noParams_wf : ([] : CStr) = [] ∨ ([] : CStr).head? = some ';' := .inl rfl

def LoginUri.text (uri : LoginUri) : CStr :=
  uri.login ++ '@' :: (bracketed uri.host.text ++ portText uri.port ++ uri.params)

/-! ### Decoding -/

/-- A SIP URI without user part. The brackets of a host belong to it. -/
structure SipUri where
  host : CStr
  port : Option Nat
  transport : Option Transport
  deriving DecidableEq

namespace SipUri

/-- `host` or `[host]`, and what follows it. -/
def cutHost (hostport : CStr) : Option (CStr × CStr) :=
  match hostport with
  | '[' :: inner => if ']' ∈ inner then some ('[' :: upTo ']' inner ++ [']'], past ']' inner) else none
  | _ =>
      if upTo ':' hostport = [] then none
      else some (upTo ':' hostport, hostport.drop (upTo ':' hostport).length)

/-- `:port`, or nothing. -/
def decodePort : CStr → Option (Option Nat)
  | [] => some none
  | ':' :: digits =>
      if digits ≠ [] ∧ digits.all Char.isDigit = true then some (some (Nat.ofDigitChars 10 digits 0))
      else none
  | _ => none

/-- The transport a URI parameter names. -/
def transportParam (param : CStr) : Option Transport :=
  [.udp, .tcp, .tls, .ws, .wss].find? fun t => decide (param = "transport=".toList ++ transportStr t)

def decode (s : CStr) : Option SipUri :=
  if !startsWithCase "sip:".toList s then none
  else
    (cutHost (upTo ';' (s.drop 4))).bind fun (host, tail) =>
      (decodePort tail).map fun port =>
        { host, port, transport := ((past ';' (s.drop 4)).splitOn ';').findSome? transportParam }

end SipUri

/-! ### Numbers -/

variable {p : Nat} {s t : CStr}

theorem digits_repr (p : Nat) : ∀ c ∈ (Nat.repr p).toList, c.isDigit = true := by
  intro c hc
  rw [Nat.toList_repr] at hc
  exact Nat.isDigit_of_mem_toDigits (by decide) (by decide) hc

theorem notMem_repr {c : Char} (hc : c.isDigit = false) (p : Nat) : c ∉ (Nat.repr p).toList := by
  intro hmem
  exact absurd ((digits_repr p c hmem).symm.trans hc) (by decide)

theorem repr_ne_nil (p : Nat) : (Nat.repr p).toList ≠ [] := by
  rw [Nat.toList_repr]
  exact Nat.toDigits_ne_nil

/-- A digit is no space and no sign. -/
theorem digit_cases {c : Char} (hc : c.isDigit = true) : isSpace c = false ∧ c ≠ '-' ∧ c ≠ '+' := by
  refine ⟨?_, ?_, ?_⟩
  · simp only [Char.isDigit, Bool.and_eq_true, decide_eq_true_eq, UInt32.le_iff_toNat_le] at hc
    have hlow : 48 ≤ c.toNat := hc.1
    simp only [isSpace, Bool.or_eq_false_iff, Bool.and_eq_false_iff, decide_eq_false_iff_not]
    omega
  · rintro rfl
    exact absurd hc (by decide)
  · rintro rfl
    exact absurd hc (by decide)

theorem strtoulSign_of_ne {c : Char} (hminus : c ≠ '-') (hplus : c ≠ '+') (s : CStr) :
    strtoulSign (c :: s) = (false, c :: s) := by
  unfold strtoulSign
  split
  · rename_i heq
    exact absurd (List.cons.inj heq).1 hminus
  · rename_i heq
    exact absurd (List.cons.inj heq).1 hplus
  · rfl

theorem strtoul_repr (hp : p < 2 ^ 64) : strtoul (Nat.repr p).toList = p := by
  have hdigits := digits_repr p
  have hvalue : Nat.ofDigitChars 10 (Nat.repr p).toList 0 = p := by
    rw [Nat.toList_repr, Nat.ofDigitChars_ten_toDigits]
  have hall := List.takeWhile_eq_self_iff.mpr hdigits
  have hne := repr_ne_nil p
  unfold strtoul
  generalize (Nat.repr p).toList = ds at *
  cases ds with
  | nil => exact absurd rfl hne
  | cons c ds =>
      obtain ⟨hspace, hminus, hplus⟩ := digit_cases (hdigits c List.mem_cons_self)
      rw [List.dropWhile_cons_of_neg (by simp [hspace]), strtoulSign_of_ne hminus hplus]
      simp only [hall, hvalue, Nat.not_le.mpr hp, if_false, Bool.false_eq_true]

theorem strtoul16_repr (hp : p < 2 ^ 16) : strtoul16 (Nat.repr p).toList = p := by
  unfold strtoul16
  rw [strtoul_repr (by omega), Nat.mod_eq_of_lt hp]

theorem strtoulSign_append {c : Char} (hminus : c ≠ '-') (hplus : c ≠ '+') (s t : CStr) :
    strtoulSign (s ++ c :: t) = ((strtoulSign s).1, (strtoulSign s).2 ++ c :: t) := by
  cases s with
  | nil => exact strtoulSign_of_ne hminus hplus t
  | cons a s =>
      by_cases haminus : a = '-'
      · rw [haminus]
        rfl
      · by_cases haplus : a = '+'
        · rw [haplus]
          rfl
        · rw [List.cons_append, strtoulSign_of_ne haminus haplus, strtoulSign_of_ne haminus haplus,
            List.cons_append]

/-- A number is read up to the first character that has no place in one. -/
theorem strtoul16_append {c : Char} (hspace : isSpace c = false) (hminus : c ≠ '-') (hplus : c ≠ '+')
    (hdigit : c.isDigit = false) (s t : CStr) : strtoul16 (s ++ c :: t) = strtoul16 s := by
  unfold strtoul16 strtoul
  rw [dropWhile_append_stop hspace, strtoulSign_append hminus hplus]
  simp only [takeWhile_append_stop hdigit]

theorem strtoul16_append_colon (s t : CStr) : strtoul16 (s ++ ':' :: t) = strtoul16 s :=
  strtoul16_append (by decide) (by decide) (by decide) (by decide) s t

/-! ### Host texts -/

theorem notMem_host (host : HostText) {c : Char} (hc : isHostChar c = false) : c ∉ host.text := by
  intro hmem
  exact absurd ((host.wf c hmem).symm.trans hc) (by decide)

theorem strNcpy_host (host : HostText) : strNcpy 256 host.text = host.text := by
  apply List.take_of_length_le
  have hshort := host.short
  omega

/-- A host is what it is written as, an address in its brackets. -/
theorem bracketed_host (host : HostText) :
    bracketed host.text = if ':' ∈ host.text then '[' :: host.text ++ [']'] else host.text := by
  have hnot : host.text.head? ≠ some '[' := by
    intro hhead
    exact notMem_host host (c := '[') (by decide) (List.mem_of_mem_head? hhead)
  unfold bracketed
  simp only [hnot, ne_eq, not_false_eq_true, and_true]

theorem notMem_portText {c : Char} (hc : c.isDigit = false) (hcolon : c ≠ ':') (port : Option Nat) :
    c ∉ portText port := by
  cases port with
  | none => exact List.not_mem_nil
  | some p =>
      unfold portText
      rw [List.mem_cons, not_or]
      exact ⟨hcolon, notMem_repr hc p⟩

theorem notMem_bracketed (host : HostText) {c : Char} (hc : isHostChar c = false) (hopen : c ≠ '[')
    (hclose : c ≠ ']') : c ∉ bracketed host.text := by
  have hnot := notMem_host host hc
  rw [bracketed_host]
  split
  · simp only [List.cons_append, List.mem_cons, List.mem_append, not_or]
    exact ⟨hopen, hnot, hclose, List.not_mem_nil⟩
  · exact hnot

/-! ### Taking the login URI apart -/

theorem length_le_of_startsWithCase {p : CStr} (hp : '@' ∉ p)
    (h : startsWithCase p (s ++ '@' :: t) = true) : p.length ≤ s.length := by
  by_contra hlt
  have hmem : '@' ∈ (s ++ '@' :: t).take p.length := by
    obtain ⟨n, hn⟩ : ∃ n, p.length = s.length + (n + 1) := ⟨p.length - s.length - 1, by omega⟩
    rw [hn, List.take_length_add_append, List.take_succ_cons]
    exact List.mem_append_right _ List.mem_cons_self
  have hlower := List.mem_map_of_mem (f := Char.toLower) hmem
  rw [of_decide_eq_true h] at hlower
  exact hp hlower

/-- Taking the scheme away leaves the '@' and what follows it. -/
theorem stripScheme_append (hs : '@' ∉ s) (t : CStr) :
    ∃ user, '@' ∉ user ∧ stripScheme (s ++ '@' :: t) = user ++ '@' :: t := by
  have hdrop (n : Nat) (hn : n ≤ s.length) :
      '@' ∉ s.drop n ∧ (s ++ '@' :: t).drop n = s.drop n ++ '@' :: t :=
    ⟨fun hmem => hs (List.mem_of_mem_drop hmem), List.drop_append_of_le_length hn⟩
  unfold stripScheme
  split
  · rename_i h
    exact ⟨_, hdrop 4 (length_le_of_startsWithCase (by decide) h)⟩
  · split
    · rename_i h
      exact ⟨_, hdrop 5 (length_le_of_startsWithCase (by decide) h)⟩
    · exact ⟨s, hs, rfl⟩

theorem upTo_params {hp params : CStr} (hhp : ';' ∉ hp)
    (hparams : params = [] ∨ params.head? = some ';') : upTo ';' (hp ++ params) = hp := by
  rcases hparams with rfl | hhead
  · rw [List.append_nil]
    exact upTo_of_notMem hhp
  · obtain ⟨rest, rfl⟩ : ∃ rest, params = ';' :: rest := List.head?_eq_some_iff.mp hhead
    exact upTo_append hhp

/-- The login URI's host and port are found, in brackets or not. -/
theorem parseAccountUri_text (uri : LoginUri) :
    (parseAccountUri 64 256 uri.text).host = uri.host.text ∧
      (parseAccountUri 64 256 uri.text).port = uri.port.getD 0 := by
  obtain ⟨user, huser, hstrip⟩ := stripScheme_append uri.login_wf
    (bracketed uri.host.text ++ portText uri.port ++ uri.params)
  have hsemi : ';' ∉ bracketed uri.host.text ++ portText uri.port := by
    rw [List.mem_append, not_or]
    exact ⟨notMem_bracketed _ (by decide) (by decide) (by decide),
      notMem_portText (by decide) (by decide) _⟩
  have hport : ∀ p ∈ uri.port, strtoul16 (Nat.repr p).toList = p :=
    fun p hp => strtoul16_repr (uri.port_wf p hp).2
  have hat : ¬ '@' ∉ user ++ '@' :: (bracketed uri.host.text ++ portText uri.port ++ uri.params) := by
    simp
  have hlit : ':' ∉ uri.host.text → ∀ inner, uri.host.text ++ portText uri.port ≠ '[' :: inner := by
    intro _ inner heq
    cases htext : uri.host.text with
    | nil => exact uri.host.nonempty htext
    | cons c rest =>
        rw [htext, List.cons_append] at heq
        refine notMem_host uri.host (c := '[') (by decide) ?_
        rw [htext, (List.cons.inj heq).1]
        exact List.mem_cons_self
  unfold parseAccountUri LoginUri.text
  simp only [hstrip, hat, if_false, past_append huser, upTo_params hsemi uri.params_wf]
  rw [bracketed_host]
  by_cases hcolon : ':' ∈ uri.host.text
  · have hclose := notMem_host uri.host (c := ']') (by decide)
    simp only [hcolon, if_true, List.cons_append, List.append_assoc, List.nil_append]
    rw [if_pos (List.mem_append_right _ List.mem_cons_self), upTo_append hclose, past_append hclose]
    refine ⟨strNcpy_host uri.host, ?_⟩
    cases hp : uri.port with
    | none => rfl
    | some p => exact hport p hp
  · simp only [hcolon, if_false]
    split
    · rename_i inner heq
      exact absurd heq (hlit hcolon inner)
    · unfold parseHostPort
      cases hp : uri.port with
      | none =>
          rw [portText, List.append_nil, if_neg hcolon]
          exact ⟨strNcpy_host uri.host, rfl⟩
      | some p =>
          rw [portText, if_pos (List.mem_append_right _ List.mem_cons_self), upTo_append hcolon,
            past_append hcolon]
          exact ⟨strNcpy_host uri.host, hport p hp⟩

/-! ### The server URL made up for the account -/

/-- What a made-up URL says of the transport: TCP has no scheme of its own. -/
def autoTransport : Transport → Transport
  | .tcp => .udp
  | transport => transport

theorem serverUrlScheme_auto (transport : Transport) (rest : CStr) :
    serverUrlScheme (autoScheme transport ++ ("://".toList ++ rest)) = (autoTransport transport, rest) := by
  cases transport <;> rfl

theorem strstr_of_notMem {c : Char} {p : CStr} (hs : c ∉ s) : strstr (c :: p) s = none := by
  induction s with
  | nil => rfl
  | cons a s ih =>
      rw [List.mem_cons, not_or] at hs
      have hne : startsWith (c :: p) (a :: s) = false := by
        unfold startsWith
        rw [List.isPrefixOf_cons_cons, Bool.and_eq_false_iff]
        exact Or.inl (beq_false_of_ne hs.1)
      rw [strstr, hne]
      exact ih hs.2

theorem notMem_authority (host : HostText) (p : Nat) {c : Char} (hc : isHostChar c = false)
    (hdigit : c.isDigit = false) (hcolon : c ≠ ':') : c ∉ host.text ++ ':' :: (Nat.repr p).toList := by
  rw [List.mem_append, List.mem_cons, not_or, not_or]
  exact ⟨notMem_host host hc, hcolon, notMem_repr hdigit p⟩

/-- The port that the text behind an address's first colon reads as. -/
def addressPort (transport : Transport) (host : CStr) : Nat :=
  let port := strtoul16 (past ':' host)
  if port = 0 then outboundDefaultPort transport else port

/-- A URL of `create_fn` taken apart again: the host goes up to its first colon. -/
theorem parseServerUrl_auto (transport : Transport) (host : HostText) (hpos : 0 < p) (hp : p < 2 ^ 16) :
    parseServerUrl 256 256
        (autoScheme transport ++ ("://".toList ++ (host.text ++ ':' :: (Nat.repr p).toList))) =
      { transport := autoTransport transport
        host := upTo ':' host.text
        port := if ':' ∈ host.text then addressPort (autoTransport transport) host.text else p
        path := [] } := by
  have hsemi := notMem_authority host p (c := ';') (by decide) (by decide) (by decide)
  have hat := notMem_authority host p (c := '@') (by decide) (by decide) (by decide)
  have hslash := notMem_authority host p (c := '/') (by decide) (by decide) (by decide)
  have hin : ∀ c ∈ host.text ++ ':' :: (Nat.repr p).toList, inAuthority c = true := by
    intro c hc
    have h1 : c ≠ '/' := fun h => hslash (h ▸ hc)
    have h2 : c ≠ ';' := fun h => hsemi (h ▸ hc)
    simp [inAuthority, h1, h2]
  have htransport : serverUrlTransport (autoTransport transport)
      (host.text ++ ':' :: (Nat.repr p).toList) = autoTransport transport := by
    unfold serverUrlTransport
    rw [show ";transport=".toList = ';' :: "transport=".toList from rfl, strstr_of_notMem hsemi]
  have hmem : ':' ∈ host.text ++ ':' :: (Nat.repr p).toList := List.mem_append_right _ List.mem_cons_self
  unfold parseServerUrl
  rw [serverUrlScheme_auto]
  simp only [htransport, List.takeWhile_eq_self_iff.mpr hin, List.dropWhile_eq_nil_iff.mpr hin, hat,
    hmem, if_true, if_false]
  by_cases hcolon : ':' ∈ host.text
  · obtain ⟨a, b, hcut, ha⟩ := exists_cut hcolon
    have hshort : strNcpy 256 a = a := by
      apply List.take_of_length_le
      have hlen := congrArg List.length hcut
      have hbound := host.short
      rw [List.length_append, List.length_cons] at hlen
      omega
    rw [if_pos hcolon, hcut, addressPort, List.append_assoc, List.cons_append]
    simp only [upTo_append ha, past_append ha, strtoul16_append_colon, hshort]
  · rw [if_neg hcolon]
    simp only [upTo_append hcolon, past_append hcolon, upTo_of_notMem hcolon, strtoul16_repr hp,
      strNcpy_host, hpos.ne', if_false]

/-! ### What the configuration asks for -/

namespace AccountConfig

variable (g : Cfg) (c : AccountConfig) (uri : LoginUri)

/-- A configuration with nothing but a login URI, a transport and a server. -/
def plain (transport : Transport) (uri : CStr) (serverHost : Option CStr) (serverPort : Nat) :
    AccountConfig :=
  { uri, transport, serverHost, serverPort
    serverUrl := none
    outbound := none
    outboundProxy := none
    iceEnabled := false
    pushProvider := .none
    pushParam := none }

/-- Nothing names an outbound URI or a server URL. -/
def Derived : Prop :=
  c.outbound = none ∧ c.outboundProxy = none ∧ g.outboundProxy = none ∧ c.serverUrl = none

/-- `server_host` where it is given, and else the host of the login URI. -/
def wantedHost : CStr :=
  match c.serverHost with
  | some (h :: hs) => h :: hs
  | _ => uri.host.text

/-- The login URI's port, or the transport's own. -/
def uriPort : Nat := uri.port.getD (outboundDefaultPort c.transport)

/-- `server_port` where it is given. -/
def wantedPort : Nat := if c.serverPort = 0 then c.uriPort uri else c.serverPort

/-- The server the configuration asks for. -/
def wanted : SipUri :=
  { host := bracketed (c.wantedHost uri)
    port := some (c.wantedPort uri)
    transport := some c.transport }

/-- The accounts that get it. For a login URI with an address in brackets it is a coincidence: the server
asked for is what the address says up to its first colon, and the port what it says from there. -/
def NamesServer : Prop :=
  c.transport ≠ .tcp ∧
    if ':' ∈ uri.host.text then
      c.wantedHost uri = upTo ':' uri.host.text ∧
        c.wantedPort uri = addressPort c.transport uri.host.text
    else c.wantedHost uri = uri.host.text ∧ c.wantedPort uri = c.uriPort uri

variable {g c uri}

theorem uriPort_wf : 0 < c.uriPort uri ∧ c.uriPort uri < 2 ^ 16 := by
  unfold uriPort
  cases hp : uri.port with
  | none =>
      rw [Option.getD_none]
      cases c.transport <;> decide
  | some p => exact uri.port_wf p hp

/-- The outbound URI is that of the host up to its first colon, whatever `server_host` and `server_port`
say. -/
theorem outbound_eq (hderived : c.Derived g) (huri : c.uri = uri.text) :
    c.createFn.outbound g =
      some (outboundUri (upTo ':' uri.host.text)
        (if ':' ∈ uri.host.text then addressPort (autoTransport c.transport) uri.host.text
          else c.uriPort uri)
        (autoTransport c.transport)) := by
  obtain ⟨hout, hproxy, hglobal, hurl⟩ := hderived
  obtain ⟨hhost, hport⟩ := parseAccountUri_text uri
  have hauto : (if uri.port.getD 0 = 0 then outboundDefaultPort c.transport else uri.port.getD 0) =
      c.uriPort uri := by
    unfold uriPort
    cases hp : uri.port with
    | none => rfl
    | some p => exact if_neg (uri.port_wf p hp).1.ne'
  have hne : autoScheme c.transport ++
      ("://".toList ++ (uri.host.text ++ ':' :: (Nat.repr (c.uriPort uri)).toList)) ≠ [] := by
    cases c.transport <;> exact List.cons_ne_nil _ _
  obtain ⟨hpos, hlt⟩ : 0 < c.uriPort uri ∧ c.uriPort uri < 2 ^ 16 := uriPort_wf
  have hcolon (ds : CStr) : ":".toList ++ ds = ':' :: ds := rfl
  unfold CreatedCfg.outbound createFn
  simp only [huri, hout, hproxy, hglobal, hurl, hhost, hport, hauto, List.append_assoc, hcolon, hne,
    if_false, Option.isSome_some, Bool.true_or, if_true, buildOutbound,
    parseServerUrl_auto c.transport uri.host hpos hlt]

end AccountConfig

/-! ### Decoding the outbound URI -/

theorem transportParam_outbound (transport : Transport) :
    (("transport=".toList ++ transportStr transport).splitOn ';').findSome? SipUri.transportParam =
      some transport := by
  cases transport <;> decide

theorem startsWithCase_append {p : CStr} (hp : p.map Char.toLower = p) (s : CStr) :
    startsWithCase p (p ++ s) = true := by
  unfold startsWithCase
  rw [List.take_left, hp]
  exact decide_eq_true rfl

theorem decodePort_repr (p : Nat) : SipUri.decodePort (':' :: (Nat.repr p).toList) = some (some p) := by
  have hall : (Nat.repr p).toList.all Char.isDigit = true := List.all_eq_true.mpr (digits_repr p)
  change (if _ then _ else _) = _
  rw [if_pos ⟨repr_ne_nil p, hall⟩, Nat.toList_repr, Nat.ofDigitChars_ten_toDigits]

theorem cutHost_append {host : CStr} (hcolon : ':' ∉ host) (hopen : '[' ∉ host) (rest : CStr) :
    SipUri.cutHost (host ++ ':' :: rest) = if host = [] then none else some (host, ':' :: rest) := by
  have hcut : upTo ':' (host ++ ':' :: rest) = host := upTo_append hcolon
  unfold SipUri.cutHost
  split
  · rename_i inner heq
    cases host with
    | nil => cases heq
    | cons c host =>
        rw [List.cons_append] at heq
        exact absurd ((List.cons.inj heq).1 ▸ List.mem_cons_self) hopen
  · rw [hcut, List.drop_left]

theorem decode_outboundUri {host : CStr} (hcolon : ':' ∉ host) (hsemi : ';' ∉ host) (hopen : '[' ∉ host)
    (p : Nat) (transport : Transport) :
    SipUri.decode (outboundUri host p transport) =
      if host = [] then none else some { host, port := some p, transport := some transport } := by
  have htext : outboundUri host p transport = "sip:".toList ++
      ((host ++ ':' :: (Nat.repr p).toList) ++ ';' :: ("transport=".toList ++ transportStr transport)) := by
    have hsep (ds : CStr) : ":".toList ++ ds = ':' :: ds := rfl
    have hparam (ds : CStr) : ";transport=".toList ++ ds = ';' :: ("transport=".toList ++ ds) := rfl
    unfold outboundUri
    simp only [List.append_assoc, List.cons_append, hsep, hparam]
  have hhostport : ';' ∉ host ++ ':' :: (Nat.repr p).toList := by
    rw [List.mem_append, List.mem_cons, not_or, not_or]
    exact ⟨hsemi, by decide, notMem_repr (by decide) p⟩
  have hdrop (rest : CStr) : ("sip:".toList ++ rest).drop 4 = rest := rfl
  unfold SipUri.decode
  rw [htext, startsWithCase_append (by decide), hdrop, upTo_append hhostport, past_append hhostport,
    transportParam_outbound, cutHost_append hcolon hopen]
  by_cases hnil : host = []
  · simp only [hnil, if_true, Bool.not_true, Bool.false_eq_true, if_false, Option.bind_none]
  · simp only [hnil, if_false, Bool.not_true, Bool.false_eq_true, Option.bind_some, decodePort_repr,
      Option.map_some]

/-! ### The result -/

theorem upTo_host (host : HostText) {c : Char} (hc : isHostChar c = false) : c ∉ upTo ':' host.text := by
  intro hmem
  exact notMem_host host hc (List.takeWhile_subset _ hmem)

/-- A host of the outbound URI has no colon, so it is none in brackets. -/
theorem bracketed_eq_iff {host cut : CStr} (hcolon : ':' ∉ cut) (hopen : '[' ∉ cut) :
    cut = bracketed host ↔ cut = host := by
  unfold bracketed
  split
  · rename_i h
    constructor
    · rintro rfl
      exact absurd List.mem_cons_self hopen
    · rintro rfl
      exact absurd h.1 hcolon
  · rfl

namespace AccountConfig

variable {g : Cfg} {c : AccountConfig} {uri : LoginUri}

theorem autoTransport_eq_iff {transport : Transport} :
    autoTransport transport = transport ↔ transport ≠ .tcp := by
  cases transport <;> decide

theorem wantedHost_ne_nil : c.wantedHost uri ≠ [] := by
  unfold wantedHost
  split
  · exact List.cons_ne_nil _ _
  · exact uri.host.nonempty

/-- **The derived outbound URI names the account's server** exactly if the transport is not TCP, the login
URI's host is no address in brackets, and `server_host` and `server_port` say nothing else than the login
URI; the coincidence with an address apart. -/
theorem outbound_names_server (g : Cfg) (c : AccountConfig) (uri : LoginUri) (huri : c.uri = uri.text)
    (hderived : c.Derived g) :
    (c.createFn.outbound g).bind SipUri.decode = some (c.wanted uri) ↔ c.NamesServer uri := by
  have hcolon : ':' ∉ upTo ':' uri.host.text := notMem_upTo
  have hopen := upTo_host uri.host (c := '[') (by decide)
  have hsemi := upTo_host uri.host (c := ';') (by decide)
  rw [outbound_eq hderived huri, Option.bind_some, decode_outboundUri hcolon hsemi hopen]
  have hwanted : upTo ':' uri.host.text = bracketed (c.wantedHost uri) ↔
      upTo ':' uri.host.text = c.wantedHost uri := bracketed_eq_iff hcolon hopen
  unfold NamesServer wanted
  constructor
  · intro h
    split at h
    · cases h
    · obtain ⟨hhost, hport, htransport⟩ := SipUri.mk.inj (Option.some.inj h)
      have htcp := autoTransport_eq_iff.mp (Option.some.inj htransport)
      rw [autoTransport_eq_iff.mpr htcp] at hport
      refine ⟨htcp, ?_⟩
      split
      · rename_i haddr
        rw [if_pos haddr] at hport
        exact ⟨(hwanted.mp hhost).symm, (Option.some.inj hport).symm⟩
      · rename_i hname
        rw [if_neg hname] at hport
        rw [upTo_of_notMem hname] at hwanted hhost
        exact ⟨(hwanted.mp hhost).symm, (Option.some.inj hport).symm⟩
  · rintro ⟨htcp, hcase⟩
    rw [autoTransport_eq_iff.mpr htcp]
    by_cases haddr : ':' ∈ uri.host.text
    · rw [if_pos haddr] at hcase ⊢
      obtain ⟨hhost, hport⟩ := hcase
      rw [if_neg (hhost ▸ wantedHost_ne_nil), ← hwanted.mpr hhost.symm, hport]
    · rw [if_neg haddr] at hcase ⊢
      obtain ⟨hhost, hport⟩ := hcase
      rw [upTo_of_notMem haddr] at hwanted ⊢
      rw [if_neg uri.host.nonempty, ← hwanted.mpr hhost.symm, hport]

/-- A login URI of the host `pbx.example.com`. -/
def pbxUri : LoginUri :=
  { login := "sip:alice".toList
    host :=
      { text := "pbx.example.com".toList
        nonempty := by decide
        short := by decide
        wf := List.all_eq_true.mp rfl }
    port := none
    params := []
    login_wf := by decide
    port_wf := noPort_wf
    params_wf := noParams_wf }

/-- An account of a TLS server, with nothing but its login URI and its transport. -/
theorem outbound_names_server_tls :
    ∃ c : AccountConfig, c.transport = .tls ∧
      (c.createFn.outbound configInit).bind SipUri.decode = some (c.wanted pbxUri) := by
  refine ⟨.plain .tls pbxUri.text none 0, rfl, ?_⟩
  refine (outbound_names_server configInit _ pbxUri rfl ⟨rfl, rfl, rfl, rfl⟩).mpr ⟨by decide, ?_⟩
  rw [if_neg (by decide)]
  exact ⟨rfl, rfl⟩

/-- `server_host` is given, and the outbound URI is that of the login URI's host. -/
theorem outbound_ignores_server_host :
    ¬ ∀ (g : Cfg) (c : AccountConfig) (uri : LoginUri), c.uri = uri.text → c.Derived g →
      (c.createFn.outbound g).bind SipUri.decode = some (c.wanted uri) := by
  intro h
  have hkept := h configInit (.plain .udp pbxUri.text (some "10.0.0.5".toList) 0) pbxUri rfl
    ⟨rfl, rfl, rfl, rfl⟩
  exact absurd hkept (by decide +kernel)

end AccountConfig

end VoxSdk
