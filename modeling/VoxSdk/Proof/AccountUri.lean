import VoxSdk.Proof.OutboundUri

/-!
# What a login URI is read as

`parse_account_uri` has two parsers. With a user part it knows brackets and parameters, and the only thing it
loses is the end of a user that is longer than `parsed_user`. Without one it cuts at the first colon and
nowhere else: an address loses all but its first group, and parameters stay with the host unless a port
stands before them.
-/

namespace VoxSdk

open Text

/-! ### The grammar -/

/-- `user@`, or nothing. -/
def userText : Option CStr → CStr
  | none => []
  | some user => user ++ ['@']

/-- The URIs `[sip:|sips:][user@]host[:port][;params]`. A text that begins with a scheme has one. -/
structure UriForm where
  scheme : CStr
  user : Option CStr
  host : HostText
  port : Option Nat
  params : CStr
  scheme_wf : scheme.map Char.toLower ∈ [[], "sip:".toList, "sips:".toList]
  user_wf : ∀ u ∈ user, '@' ∉ u
  port_wf : ∀ p ∈ port, 0 < p ∧ p < 2 ^ 16
  params_wf : params = [] ∨ params.head? = some ';'
  params_at : '@' ∉ params
  scheme_eq : scheme = [] → ∀ p ∈ ["sip:".toList, "sips:".toList],
    startsWithCase p (userText user ++ (bracketed host.text ++ portText port ++ params)) = false

namespace UriForm

variable (uri : UriForm)

def hostport : CStr := bracketed uri.host.text ++ portText uri.port ++ uri.params

def text : CStr := uri.scheme ++ (userText uri.user ++ uri.hostport)

/-- What the URI says. -/
def meaning : AccountUri :=
  { user := uri.user.getD []
    host := uri.host.text
    port := uri.port.getD 0 }

/-- The URIs that are read as they are meant. -/
def Read : Prop :=
  match uri.user with
  | some user => user.length < 64
  | none => ':' ∉ uri.host.text ∧ (uri.port = none → uri.params = [])

/-- Read as it is meant, and the AOR that comes of it once more. -/
structure RoundTrips : Prop where
  parsed : parseAccountUri 64 256 uri.text = uri.meaning
  aor : ∃ aor, (∀ sz, aor.length < sz → (parseAccountUri 64 256 uri.text).getAor sz = .ok aor) ∧
    (parseAccountUri 64 256 aor).user = uri.meaning.user ∧
      (parseAccountUri 64 256 aor).host = uri.meaning.host

end UriForm

/-! ### The scheme -/

variable {uri : UriForm} {s : CStr}

theorem stripScheme_of_none (h : ∀ p ∈ ["sip:".toList, "sips:".toList], startsWithCase p s = false) :
    stripScheme s = s := by
  unfold stripScheme
  rw [h _ List.mem_cons_self, h _ (List.mem_cons_of_mem _ List.mem_cons_self)]
  rfl

/-- Whatever the case of its letters, a scheme is taken away. -/
theorem stripScheme_scheme {scheme : CStr} (h : scheme.map Char.toLower ∈ ["sip:".toList, "sips:".toList])
    (s : CStr) : stripScheme (scheme ++ s) = s := by
  unfold stripScheme
  rcases List.mem_cons.mp h with hsip | hsips
  · have hlen : scheme.length = 4 := by
      rw [← List.length_map (f := Char.toLower), hsip]
      rfl
    have hstart : startsWithCase "sip:".toList (scheme ++ s) = true := by
      unfold startsWithCase
      rw [show "sip:".toList.length = scheme.length from hlen.symm, List.take_left, hsip]
      exact decide_eq_true rfl
    rw [hstart, if_pos rfl, ← hlen, List.drop_left]
  · have hsips : scheme.map Char.toLower = "sips:".toList := List.mem_singleton.mp hsips
    have hlen : scheme.length = 5 := by
      rw [← List.length_map (f := Char.toLower), hsips]
      rfl
    have hother : startsWithCase "sip:".toList (scheme ++ s) = false := by
      unfold startsWithCase
      rw [List.take_append_of_le_length (by rw [hlen]; decide), List.map_take, hsips]
      decide
    have hstart : startsWithCase "sips:".toList (scheme ++ s) = true := by
      unfold startsWithCase
      rw [show "sips:".toList.length = scheme.length from hlen.symm, List.take_left, hsips]
      exact decide_eq_true rfl
    rw [hother, hstart, if_neg Bool.false_ne_true, if_pos rfl, ← hlen, List.drop_left]

theorem stripScheme_text (uri : UriForm) :
    stripScheme uri.text = userText uri.user ++ uri.hostport := by
  unfold UriForm.text
  rcases List.mem_cons.mp uri.scheme_wf with hnil | hscheme
  · have hnil : uri.scheme = [] := List.map_eq_nil_iff.mp hnil
    rw [hnil, List.nil_append]
    exact stripScheme_of_none (uri.scheme_eq hnil)
  · exact stripScheme_scheme hscheme _

/-! ### With a user part -/

theorem parseAccountUri_user {user rest : CStr} (huser : '@' ∉ user)
    (hstrip : stripScheme s = user ++ '@' :: rest) :
    (parseAccountUri 64 256 s).user = strNcpy 64 user := by
  have hat : ¬ '@' ∉ user ++ '@' :: rest := by simp
  unfold parseAccountUri
  simp only [hstrip, hat, if_false, upTo_append huser]
  split
  · split_ifs <;> rfl
  · unfold parseHostPort
    split_ifs <;> rfl

theorem notMem_scheme (uri : UriForm) : '@' ∉ uri.scheme := by
  intro hmem
  have hlower : '@' ∈ uri.scheme.map Char.toLower := List.mem_map_of_mem (f := Char.toLower) hmem
  have hall : ∀ t ∈ [[], "sip:".toList, "sips:".toList], '@' ∉ t := by decide
  exact hall _ uri.scheme_wf hlower

/-- The same URI, with its scheme counted to the login. -/
def UriForm.loginUri (uri : UriForm) {user : CStr} (huser : uri.user = some user) : LoginUri :=
  { login := uri.scheme ++ user
    host := uri.host
    port := uri.port
    params := uri.params
    login_wf := by
      rw [List.mem_append, not_or]
      exact ⟨notMem_scheme uri, uri.user_wf user huser⟩
    port_wf := uri.port_wf
    params_wf := uri.params_wf }

theorem parse_of_user (uri : UriForm) {user : CStr} (huser : uri.user = some user) :
    parseAccountUri 64 256 uri.text = { uri.meaning with user := strNcpy 64 user } := by
  have htext : (uri.loginUri huser).text = uri.text := by
    unfold LoginUri.text UriForm.text UriForm.hostport UriForm.loginUri
    simp only [huser, userText, List.append_assoc, List.cons_append, List.nil_append]
  have hstrip : stripScheme uri.text = user ++ '@' :: uri.hostport := by
    rw [stripScheme_text, huser, userText, List.append_assoc, List.singleton_append]
  obtain ⟨hhost, hport⟩ := parseAccountUri_text (uri.loginUri huser)
  rw [htext] at hhost hport
  have hname := parseAccountUri_user (uri.user_wf user huser) hstrip
  exact congr (congrArg₂ AccountUri.mk hname hhost) hport

/-! ### Without one -/

theorem notMem_hostport (uri : UriForm) : '@' ∉ uri.hostport := by
  unfold UriForm.hostport
  rw [List.mem_append, List.mem_append, not_or, not_or]
  exact ⟨⟨notMem_bracketed _ (by decide) (by decide) (by decide),
    notMem_portText (by decide) (by decide) _⟩, uri.params_at⟩

theorem parse_of_no_user (uri : UriForm) (huser : uri.user = none) :
    parseAccountUri 64 256 uri.text = parseHostPort [] 256 uri.hostport := by
  have hstrip : stripScheme uri.text = uri.hostport := by
    rw [stripScheme_text, huser, userText, List.nil_append]
  unfold parseAccountUri
  simp only [hstrip, notMem_hostport uri, not_false_eq_true, if_true]

/-- A host with something behind it that is no port. -/
theorem strNcpy_host_append (host : HostText) (c : Char) (rest : CStr) :
    strNcpy 256 (host.text ++ c :: rest) ≠ host.text := by
  intro heq
  have hlen := congrArg List.length heq
  have hshort := host.short
  unfold strNcpy at hlen
  rw [List.length_take, List.length_append, List.length_cons] at hlen
  omega

theorem parseHostPort_address (hcolon : ':' ∈ uri.host.text) :
    (parseHostPort [] 256 uri.hostport).host ≠ uri.host.text := by
  obtain ⟨rest, hrest⟩ : ∃ rest, uri.hostport = '[' :: rest := by
    unfold UriForm.hostport
    rw [bracketed_host, if_pos hcolon]
    exact ⟨_, rfl⟩
  have hopen : '[' ∉ uri.host.text := notMem_host uri.host (by decide)
  obtain ⟨cut, hcut⟩ : ∃ cut, (parseHostPort [] 256 uri.hostport).host = '[' :: cut := by
    rw [hrest]
    unfold parseHostPort
    split_ifs
    · exact ⟨_, rfl⟩
    · exact ⟨_, rfl⟩
  intro heq
  rw [← heq, hcut] at hopen
  exact hopen List.mem_cons_self

theorem parseHostPort_port (hcolon : ':' ∉ uri.host.text) {p : Nat} (hport : uri.port = some p) :
    parseHostPort [] 256 uri.hostport = { user := [], host := uri.host.text, port := p } := by
  have htext : uri.hostport = uri.host.text ++ ':' :: ((Nat.repr p).toList ++ uri.params) := by
    unfold UriForm.hostport
    rw [bracketed_host, if_neg hcolon, hport, portText, List.append_assoc, List.cons_append]
  have hnumber : strtoul16 ((Nat.repr p).toList ++ uri.params) = p := by
    have hp : strtoul16 (Nat.repr p).toList = p := strtoul16_repr (uri.port_wf p hport).2
    rcases uri.params_wf with hnil | hhead
    · rw [hnil, List.append_nil, hp]
    · obtain ⟨rest, hparams⟩ := List.head?_eq_some_iff.mp hhead
      rw [hparams, strtoul16_append (by decide) (by decide) (by decide) (by decide), hp]
  unfold parseHostPort
  rw [htext, if_pos (List.mem_append_right _ List.mem_cons_self), upTo_append hcolon, past_append hcolon,
    strNcpy_host, hnumber]

theorem parseHostPort_params (hcolon : ':' ∉ uri.host.text) (hport : uri.port = none) :
    (parseHostPort [] 256 uri.hostport).host = uri.host.text ↔ uri.params = [] := by
  have htext : uri.hostport = uri.host.text ++ uri.params := by
    unfold UriForm.hostport
    rw [bracketed_host, if_neg hcolon, hport, portText, List.append_nil]
  rcases uri.params_wf with hnil | hhead
  · refine iff_of_true ?_ hnil
    rw [htext, hnil, List.append_nil]
    unfold parseHostPort
    rw [if_neg hcolon, strNcpy_host]
  · obtain ⟨rest, hparams⟩ := List.head?_eq_some_iff.mp hhead
    refine iff_of_false ?_ (hparams ▸ List.cons_ne_nil _ _)
    have hcut : upTo ':' (uri.host.text ++ ';' :: rest) = uri.host.text ++ ';' :: upTo ':' rest :=
      List.takeWhile_append_of_pos (ne_of_mem hcolon)
    rw [htext, hparams]
    unfold parseHostPort
    split_ifs
    · rw [hcut]
      exact strNcpy_host_append uri.host ';' _
    · exact strNcpy_host_append uri.host ';' _

/-- With neither user part nor port, the parameters go to the host. -/
theorem parse_of_no_user_iff (uri : UriForm) (huser : uri.user = none) :
    parseAccountUri 64 256 uri.text = uri.meaning ↔
      ':' ∉ uri.host.text ∧ (uri.port = none → uri.params = []) := by
  rw [parse_of_no_user uri huser]
  unfold UriForm.meaning
  rw [huser, Option.getD_none]
  by_cases hcolon : ':' ∈ uri.host.text
  · refine iff_of_false (fun heq => ?_) fun h => h.1 hcolon
    exact parseHostPort_address hcolon (congrArg AccountUri.host heq)
  · cases hport : uri.port with
    | some p => exact iff_of_true (parseHostPort_port hcolon hport) ⟨hcolon, fun h => by cases h⟩
    | none =>
        have hhost := parseHostPort_params hcolon hport
        constructor
        · intro heq
          exact ⟨hcolon, fun _ => hhost.mp (congrArg AccountUri.host heq)⟩
        · rintro ⟨-, hparams⟩
          have htext : uri.hostport = uri.host.text := by
            unfold UriForm.hostport
            rw [bracketed_host, if_neg hcolon, hport, portText, hparams rfl, List.append_nil,
              List.append_nil]
          unfold parseHostPort
          rw [htext, if_neg hcolon, strNcpy_host, Option.getD_none]

/-! ### The AOR -/

/-- The URI an AOR is. -/
def aorUri (user : CStr) (huser : '@' ∉ user) (host : HostText) : UriForm where
  scheme := "sip:".toList
  user := some user
  host := host
  port := none
  params := []
  scheme_wf := by decide
  user_wf u hu := Option.mem_some_iff.mp hu ▸ huser
  port_wf := noPort_wf
  params_wf := noParams_wf
  params_at := List.not_mem_nil
  scheme_eq h := absurd h (by decide)

/-- The AOR of what a URI means is a URI that means the same, without the port. -/
theorem parse_aor {user : CStr} (huser : '@' ∉ user) (hshort : user.length < 64) (host : HostText)
    (port : Nat) :
    parseAccountUri 64 256 (AccountUri.aor { user, host := host.text, port }) =
      { user, host := host.text, port := 0 } := by
  have htext : AccountUri.aor { user, host := host.text, port } = (aorUri user huser host).text := by
    unfold AccountUri.aor UriForm.text UriForm.hostport aorUri
    simp only [bracketed_host, userText, portText]
    split_ifs
    · have hopen : "@[".toList = '@' :: ['['] := rfl
      have hclose : "]".toList = [']'] := rfl
      simp only [hopen, hclose, List.append_assoc, List.cons_append, List.nil_append, List.append_nil]
    · have hat : "@".toList = ['@'] := rfl
      simp only [hat, List.append_assoc, List.append_nil]
  have hkept : strNcpy 64 user = user := List.take_of_length_le (by omega)
  rw [htext, parse_of_user _ rfl, hkept]
  rfl

/-- A user part is read whole if it fits its buffer. -/
theorem strNcpy_user (user : CStr) : strNcpy 64 user = user ↔ user.length < 64 := by
  unfold strNcpy
  rw [List.take_eq_self_iff]
  omega

theorem parse_eq_iff (uri : UriForm) :
    parseAccountUri 64 256 uri.text = uri.meaning ↔ uri.Read := by
  unfold UriForm.Read
  cases huser : uri.user with
  | none => exact parse_of_no_user_iff uri huser
  | some user =>
      have hmeant : uri.meaning.user = user := by
        unfold UriForm.meaning
        rw [huser, Option.getD_some]
      calc parseAccountUri 64 256 uri.text = uri.meaning
          ↔ { uri.meaning with user := strNcpy 64 user } = uri.meaning := by
            rw [parse_of_user uri huser]
        _ ↔ strNcpy 64 user = user := by
            constructor
            · intro heq
              exact (congrArg AccountUri.user heq).trans hmeant
            · intro heq
              rw [heq, ← hmeant]
        _ ↔ user.length < 64 := strNcpy_user user

/-- What is read as it is meant has a user part that fits. -/
theorem user_short (hread : uri.Read) : uri.meaning.user.length < 64 := by
  unfold UriForm.Read at hread
  unfold UriForm.meaning
  cases huser : uri.user with
  | none => exact Nat.zero_lt_succ 63
  | some user =>
      rw [huser] at hread
      exact hread

theorem notMem_user (uri : UriForm) : '@' ∉ uri.meaning.user := by
  unfold UriForm.meaning
  cases huser : uri.user with
  | none => exact List.not_mem_nil
  | some user => exact uri.user_wf user huser

/-- **A login URI is read as it is meant**, and so is the AOR that comes of it, exactly if its user part is
not too long, or, where it has none, if its host is no address and no parameters follow it at once. -/
theorem account_uri_round_trips_iff (uri : UriForm) : uri.RoundTrips ↔ uri.Read := by
  constructor
  · intro h
    exact (parse_eq_iff uri).mp h.parsed
  · intro hread
    have hparsed := (parse_eq_iff uri).mpr hread
    have haor : parseAccountUri 64 256 uri.meaning.aor = { uri.meaning with port := 0 } :=
      parse_aor (notMem_user uri) (user_short hread) uri.host _
    refine ⟨hparsed, uri.meaning.aor, fun sz hroom => ?_, ?_, ?_⟩
    · unfold AccountUri.getAor
      rw [hparsed, if_neg (by omega), if_pos hroom]
    · rw [haor]
    · rw [haor]

/-- An address and a port, without a user. -/
def addressUri : UriForm where
  scheme := "sip:".toList
  user := none
  host := addressHost
  port := some 5062
  params := []
  scheme_wf := by decide
  user_wf := by simp
  port_wf := by simp
  params_wf := noParams_wf
  params_at := List.not_mem_nil
  scheme_eq h := absurd h (by decide)

/-- `sip:[2001:db8::1]:5062` is read as the host `[2001`. -/
theorem account_uri_loses_address : ¬ ∀ uri : UriForm, uri.RoundTrips := by
  intro h
  exact absurd (congrArg AccountUri.host (h addressUri).parsed) (by decide +kernel)

end VoxSdk
