import VoxSdk.Proof.OutboundUri

/-!
# What a server URL is read as

`vox_parse_server_url` looks for '/', ';', '@' and ':' by itself, each of them in the whole text. What it
finds is what the URL says, unless the host is an address in brackets, a path says `;transport=` itself or is
too long, or the transport has no scheme. A path in front of `;transport=` keeps the parameter as its end.
The port is what `strtoul` makes of the text behind the first colon, cut to sixteen bits.
-/

namespace VoxSdk

open Text

variable {s t : CStr}

/-! ### The forms of a server URL -/

/-- A server. The path is empty or begins with '/'. -/
structure ServerUri where
  transport : Transport
  host : HostText
  port : Nat
  path : CStr
  port_wf : 0 < port ∧ port < 2 ^ 16
  path_wf : path = [] ∨ path.head? = some '/'

/-- `scheme://`, `sip:` with `;transport=`, and the output of `vox_build_outbound`, which knows no path. -/
inductive UrlForm where
  | scheme
  | param
  | outbound
  deriving DecidableEq

/-- `;transport=`, as a parameter. -/
def transportText (transport : Transport) : CStr := ";transport=".toList ++ transportStr transport

/-- A bare '/' is no path, with parameters or without. -/
def pathSaid : CStr → CStr
  | ['/'] => []
  | '/' :: ';' :: _ => []
  | path => path

namespace ServerUri

variable (uri : ServerUri)

/-- `host:port`. -/
def authority : CStr := bracketed uri.host.text ++ ':' :: (Nat.repr uri.port).toList

def render : UrlForm → CStr
  | .scheme => autoScheme uri.transport ++ ("://".toList ++ (uri.authority ++ uri.path))
  | .param => "sip:".toList ++ (uri.authority ++ (uri.path ++ transportText uri.transport))
  | .outbound => buildOutbound none (bracketed uri.host.text) uri.port uri.transport

/-- What the URL says. -/
def meaning (form : UrlForm) : ServerUrl :=
  { transport := uri.transport
    host := bracketed uri.host.text
    port := uri.port
    path := match form with
      | .outbound => []
      | _ => pathSaid uri.path }

end ServerUri

/-- The transport a `;transport=` names, if it names one. -/
def transportNamed (tv : CStr) : Option Transport :=
  if startsWithCase "wss".toList tv then some .wss
  else if startsWithCase "ws".toList tv then some .ws
  else if startsWithCase "tls".toList tv then some .tls
  else if startsWithCase "tcp".toList tv then some .tcp
  else if startsWithCase "udp".toList tv then some .udp
  else none

/-- The URLs that are read as they are meant. The first `;transport=` counts, also where it stands in a
path. -/
def ServerUri.Carried (uri : ServerUri) (form : UrlForm) : Prop :=
  ':' ∉ uri.host.text ∧
    match form with
    | .scheme =>
        ((strstr ";transport=".toList uri.path).bind transportNamed).getD (autoTransport uri.transport) =
            uri.transport ∧
          (pathSaid uri.path).length < 256
    | .param =>
        (match strstr ";transport=".toList uri.path with
          | none => uri.transport
          | some tv => (transportNamed tv).getD .udp) = uri.transport ∧
          (pathSaid uri.path = [] ∨ uri.path.length = 255)
    | .outbound => True

/-! ### The transport -/

theorem serverUrlTransport_eq (transport : Transport) (rest : CStr) :
    serverUrlTransport transport rest =
      ((strstr ";transport=".toList rest).bind transportNamed).getD transport := by
  unfold serverUrlTransport
  cases strstr ";transport=".toList rest with
  | none => rfl
  | some tv =>
      rw [Option.bind_some]
      unfold transportNamed
      dsimp only
      split_ifs <;> rfl

/-- A text without the first character of the pattern is passed over. -/
theorem strstr_append_of_notMem {c : Char} {p : CStr} (hs : c ∉ s) (t : CStr) :
    strstr (c :: p) (s ++ t) = strstr (c :: p) t := by
  induction s with
  | nil => rfl
  | cons a s ih =>
      rw [List.mem_cons, not_or] at hs
      have hne : startsWith (c :: p) (a :: (s ++ t)) = false := by
        unfold startsWith
        rw [List.isPrefixOf_cons_cons, Bool.and_eq_false_iff]
        exact Or.inl (beq_false_of_ne hs.1)
      rw [List.cons_append, strstr, hne]
      exact ih hs.2

/-- The pattern begins with the only `c` in it, so no occurrence reaches over the next `c`. -/
theorem startsWith_append {c : Char} {p : CStr} (hp : c ∉ p) (s t : CStr) :
    startsWith p (s ++ c :: t) = startsWith p s := by
  unfold startsWith
  induction p generalizing s with
  | nil => rfl
  | cons a p ih =>
      rw [List.mem_cons, not_or] at hp
      cases s with
      | nil =>
          rw [List.nil_append, List.isPrefixOf_cons_cons, beq_false_of_ne (Ne.symm hp.1)]
          rfl
      | cons b s => rw [List.cons_append, List.isPrefixOf_cons_cons, List.isPrefixOf_cons_cons, ih hp.2]

theorem strstr_append {c : Char} {p : CStr} (hp : c ∉ p) (s t : CStr) :
    strstr (c :: p) (s ++ c :: t) =
      match strstr (c :: p) s with
      | none => strstr (c :: p) (c :: t)
      | some tv => some (tv ++ c :: t) := by
  induction s with
  | nil => rfl
  | cons a s ih =>
      have hstart : startsWith (c :: p) (a :: (s ++ c :: t)) = startsWith (c :: p) (a :: s) := by
        have htail := startsWith_append hp s t
        unfold startsWith at htail ⊢
        rw [List.isPrefixOf_cons_cons, List.isPrefixOf_cons_cons, htail]
      rw [List.cons_append, strstr, strstr, hstart]
      split_ifs with h
      · have hle : p.length ≤ s.length := by
          have hprefix : (c :: p) <+: (a :: s) := List.isPrefixOf_iff_prefix.mp h
          exact (List.prefix_cons_iff.mp hprefix).elim (fun h => by cases h) fun h => by
            obtain ⟨t', ht', hpre⟩ := h
            exact (List.cons.inj ht').2 ▸ hpre.length_le
        rw [List.length_cons, List.drop_succ_cons, List.drop_succ_cons, List.drop_append_of_le_length hle]
      · exact ih

/-- What `;transport=` names stands before the next ';'. -/
theorem startsWithCase_append_stop {c : Char} {p : CStr} (hp : c.toLower ∉ p) (s t : CStr) :
    startsWithCase p (s ++ c :: t) = startsWithCase p s := by
  unfold startsWithCase
  by_cases hlen : p.length ≤ s.length
  · rw [List.take_append_of_le_length hlen]
  · have hlong : (s.take p.length).map Char.toLower ≠ p := by
      intro heq
      have hl := congrArg List.length heq
      rw [List.length_map, List.length_take] at hl
      omega
    have hmem : ((s ++ c :: t).take p.length).map Char.toLower ≠ p := by
      intro heq
      obtain ⟨n, hn⟩ : ∃ n, p.length = s.length + (n + 1) := ⟨p.length - s.length - 1, by omega⟩
      refine hp (heq ▸ List.mem_map_of_mem ?_)
      rw [hn, List.take_length_add_append, List.take_succ_cons]
      exact List.mem_append_right _ List.mem_cons_self
    rw [decide_eq_false hlong, decide_eq_false hmem]

theorem transportNamed_append (tv t : CStr) : transportNamed (tv ++ ';' :: t) = transportNamed tv := by
  have hstop (p : CStr) (hp : ';' ∉ p) : startsWithCase p (tv ++ ';' :: t) = startsWithCase p tv :=
    startsWithCase_append_stop (c := ';') hp tv t
  unfold transportNamed
  simp only [hstop _ (show ';' ∉ "wss".toList by decide), hstop _ (show ';' ∉ "ws".toList by decide),
    hstop _ (show ';' ∉ "tls".toList by decide), hstop _ (show ';' ∉ "tcp".toList by decide),
    hstop _ (show ';' ∉ "udp".toList by decide)]

/-- The transport of the `sip:` form: a path that says `;transport=` comes first. -/
theorem serverUrlTransport_param (path : CStr) (transport : Transport) :
    serverUrlTransport .udp (path ++ transportText transport) =
      match strstr ";transport=".toList path with
      | none => transport
      | some tv => (transportNamed tv).getD .udp := by
  have hpattern : ";transport=".toList = ';' :: "transport=".toList := rfl
  have htext : transportText transport = ';' :: ("transport=".toList ++ transportStr transport) := rfl
  rw [serverUrlTransport_eq, hpattern, htext, strstr_append (by decide)]
  cases strstr (';' :: "transport=".toList) path with
  | none => cases transport <;> rfl
  | some tv =>
      simp only [Option.bind_some, transportNamed_append]

/-! ### The authority and the path -/

/-- The path that is read. -/
def pathRead : CStr → CStr
  | '/' :: c :: path => if c = ';' then [] else strNcpy 256 ('/' :: c :: path)
  | _ => []

theorem pathSaid_cons {c : Char} (hc : c ≠ ';') (path : CStr) :
    pathSaid ('/' :: c :: path) = '/' :: c :: path := by
  unfold pathSaid
  split
  · rename_i heq
    cases heq
  · rename_i heq
    exact absurd (List.cons.inj (List.cons.inj heq).2).1 hc
  · rfl

theorem pathRead_eq_iff {path : CStr} (hpath : path = [] ∨ path.head? = some '/') :
    pathRead path = pathSaid path ↔ (pathSaid path).length < 256 := by
  rcases hpath with rfl | hhead
  · exact iff_of_true rfl (by decide)
  · obtain ⟨rest, rfl⟩ := List.head?_eq_some_iff.mp hhead
    cases rest with
    | nil => exact iff_of_true rfl (by decide)
    | cons c path =>
        by_cases hc : c = ';'
        · rw [hc]
          exact iff_of_true rfl (Nat.zero_lt_succ 255)
        · rw [pathSaid_cons hc, pathRead, if_neg hc]
          unfold strNcpy
          rw [List.take_eq_self_iff]
          omega

/-- In front of a parameter: the parameter becomes the end of the path. -/
theorem pathRead_append_eq_iff {path : CStr} (hpath : path = [] ∨ path.head? = some '/') (rest : CStr) :
    pathRead (path ++ ';' :: rest) = pathSaid path ↔ pathSaid path = [] ∨ path.length = 255 := by
  rcases hpath with rfl | hhead
  · exact iff_of_true rfl (.inl rfl)
  · obtain ⟨path, rfl⟩ := List.head?_eq_some_iff.mp hhead
    cases path with
    | nil => exact iff_of_true rfl (.inl rfl)
    | cons c path =>
        by_cases hc : c = ';'
        · rw [hc]
          exact iff_of_true rfl (.inl rfl)
        · rw [pathSaid_cons hc, List.cons_append, List.cons_append, pathRead, if_neg hc,
            or_iff_right (List.cons_ne_nil _ _)]
          have hcut : '/' :: c :: (path ++ ';' :: rest) = ('/' :: c :: path) ++ ';' :: rest := rfl
          unfold strNcpy
          rw [hcut]
          constructor
          · intro heq
            have hlen := congrArg List.length heq
            rw [List.length_take, List.length_append, List.length_cons (a := ';')] at hlen
            omega
          · intro hlen
            exact List.take_left' hlen

theorem inAuthority_authority (uri : ServerUri) (hcolon : ':' ∉ uri.host.text) :
    uri.authority = uri.host.text ++ ':' :: (Nat.repr uri.port).toList ∧
      ∀ c ∈ uri.authority, inAuthority c = true := by
  have heq : uri.authority = uri.host.text ++ ':' :: (Nat.repr uri.port).toList := by
    unfold ServerUri.authority
    rw [bracketed_host, if_neg hcolon]
  refine ⟨heq, fun c hc => ?_⟩
  rw [heq] at hc
  have hslash := notMem_authority uri.host uri.port (c := '/') (by decide) (by decide) (by decide)
  have hsemi := notMem_authority uri.host uri.port (c := ';') (by decide) (by decide) (by decide)
  have h1 : c ≠ '/' := fun h => hslash (h ▸ hc)
  have h2 : c ≠ ';' := fun h => hsemi (h ▸ hc)
  simp [inAuthority, h1, h2]

/-- A server URL with a name or an IPv4 address, and what follows the port. -/
theorem parseServerUrl_text (uri : ServerUri) (hcolon : ':' ∉ uri.host.text) {url tail : CStr}
    {transport : Transport} (hscheme : serverUrlScheme url = (transport, uri.authority ++ tail))
    (htail : ∀ c ∈ tail.head?, inAuthority c = false) :
    parseServerUrl 256 256 url =
      { transport := serverUrlTransport transport tail
        host := uri.host.text
        port := uri.port
        path := pathRead tail } := by
  obtain ⟨hauthority, hin⟩ := inAuthority_authority uri hcolon
  have hsemi : ';' ∉ uri.authority := by
    rw [hauthority]
    exact notMem_authority uri.host uri.port (by decide) (by decide) (by decide)
  have hat : '@' ∉ uri.authority := by
    rw [hauthority]
    exact notMem_authority uri.host uri.port (by decide) (by decide) (by decide)
  have hmem : ':' ∈ uri.authority := by
    rw [hauthority]
    exact List.mem_append_right _ List.mem_cons_self
  have htransport : serverUrlTransport transport (uri.authority ++ tail) =
      serverUrlTransport transport tail := by
    rw [serverUrlTransport_eq, serverUrlTransport_eq,
      show ";transport=".toList = ';' :: "transport=".toList from rfl, strstr_append_of_notMem hsemi]
  have htake : (uri.authority ++ tail).takeWhile inAuthority = uri.authority := by
    cases tail with
    | nil => rw [List.append_nil, List.takeWhile_eq_self_iff.mpr hin]
    | cons c tail => rw [takeWhile_append_stop (htail c rfl), List.takeWhile_eq_self_iff.mpr hin]
  have hdrop : (uri.authority ++ tail).dropWhile inAuthority = tail := by
    cases tail with
    | nil => rw [List.append_nil, List.dropWhile_eq_nil_iff.mpr hin]
    | cons c tail =>
        rw [dropWhile_append_stop (htail c rfl), List.dropWhile_eq_nil_iff.mpr hin, List.nil_append]
  have hport : strtoul16 (past ':' uri.authority) = uri.port := by
    rw [hauthority, past_append hcolon, strtoul16_repr uri.port_wf.2]
  have hhost : strNcpy 256 (upTo ':' uri.authority) = uri.host.text := by
    rw [hauthority, upTo_append hcolon, strNcpy_host]
  unfold parseServerUrl
  rw [hscheme]
  simp only [htransport, htake, hdrop, hat, hmem, if_true, if_false, hport, hhost,
    uri.port_wf.1.ne']
  rfl

/-- No host that is read has a colon. -/
theorem notMem_parseServerUrl (url : CStr) : ':' ∉ (parseServerUrl 256 256 url).host := by
  have hcut (p : CStr) (hp : ':' ∉ p) : ':' ∉ strNcpy 256 p := fun hmem => hp (List.mem_of_mem_take hmem)
  unfold parseServerUrl
  dsimp only
  split_ifs
  all_goals first
    | exact hcut _ notMem_upTo
    | exact hcut _ (by assumption)

/-! ### The round trip -/

theorem serverUrlScheme_sip {rest : CStr} (hrest : rest.head? ≠ some '/') :
    serverUrlScheme ("sip:".toList ++ rest) = (.udp, rest) := by
  have hskip : skipSlashes rest = rest := by
    unfold skipSlashes
    split
    · exact absurd rfl hrest
    · rfl
  calc serverUrlScheme ("sip:".toList ++ rest) = (.udp, skipSlashes rest) := rfl
    _ = (.udp, rest) := by rw [hskip]

theorem head?_authority (uri : ServerUri) (hcolon : ':' ∉ uri.host.text) (tail : CStr) :
    (uri.authority ++ tail).head? ≠ some '/' := by
  obtain ⟨hauthority, hin⟩ := inAuthority_authority uri hcolon
  intro hhead
  have hne : uri.authority ≠ [] := by
    rw [hauthority]
    exact List.append_ne_nil_of_right_ne_nil _ (List.cons_ne_nil _ _)
  rw [List.head?_append_of_ne_nil _ hne] at hhead
  exact absurd (hin '/' (List.mem_of_mem_head? hhead)) (by decide)

theorem parse_param (uri : ServerUri) (hcolon : ':' ∉ uri.host.text) {path : CStr}
    (hpath : path = [] ∨ path.head? = some '/') :
    parseServerUrl 256 256 ("sip:".toList ++ (uri.authority ++ (path ++ transportText uri.transport))) =
      { transport := serverUrlTransport .udp (path ++ transportText uri.transport)
        host := uri.host.text
        port := uri.port
        path := pathRead (path ++ transportText uri.transport) } := by
  apply parseServerUrl_text uri hcolon (serverUrlScheme_sip (head?_authority uri hcolon _))
  intro c hc
  rcases hpath with rfl | hhead
  · obtain rfl : c = ';' := (Option.some.inj hc).symm
    rfl
  · obtain ⟨rest, rfl⟩ := List.head?_eq_some_iff.mp hhead
    obtain rfl : c = '/' := (Option.some.inj hc).symm
    rfl

theorem render_outbound (uri : ServerUri) (hcolon : ':' ∉ uri.host.text) :
    uri.render .outbound = "sip:".toList ++ (uri.authority ++ ([] ++ transportText uri.transport)) := by
  have hsep (ds : CStr) : ":".toList ++ ds = ':' :: ds := rfl
  unfold ServerUri.render buildOutbound buildOutboundHost ServerUri.authority transportText
  simp only [bracketed_host, if_neg hcolon, strNcpy_host, uri.port_wf.1.ne', if_false, List.append_assoc,
    List.cons_append, List.nil_append, hsep]

/-- A URL of one of the forms is read as it is meant exactly if it is one of those in `Carried`. -/
theorem parse_render_iff (uri : ServerUri) (form : UrlForm) :
    parseServerUrl 256 256 (uri.render form) = uri.meaning form ↔ uri.Carried form := by
  by_cases hcolon : ':' ∈ uri.host.text
  · refine iff_of_false (fun heq => ?_) fun h => h.1 hcolon
    have hhost : ':' ∉ (uri.meaning form).host := heq ▸ notMem_parseServerUrl _
    unfold ServerUri.meaning at hhost
    rw [bracketed_host, if_pos hcolon] at hhost
    exact hhost (List.mem_append_left _ (List.mem_cons_of_mem _ hcolon))
  · have hhost : bracketed uri.host.text = uri.host.text := by rw [bracketed_host, if_neg hcolon]
    unfold ServerUri.meaning ServerUri.Carried
    rw [hhost, and_iff_right hcolon]
    cases form with
    | scheme =>
        have hparse : parseServerUrl 256 256 (uri.render .scheme) =
            { transport := serverUrlTransport (autoTransport uri.transport) uri.path
              host := uri.host.text
              port := uri.port
              path := pathRead uri.path } := by
          apply parseServerUrl_text uri hcolon (serverUrlScheme_auto uri.transport _)
          intro c hc
          rcases uri.path_wf with hnil | hhead
          · rw [hnil] at hc
            cases hc
          · obtain rfl : c = '/' := Option.some.inj (hc.symm.trans hhead)
            rfl
        rw [hparse, serverUrlTransport_eq]
        simp only [ServerUrl.mk.injEq, true_and, pathRead_eq_iff uri.path_wf]
    | param =>
        rw [ServerUri.render, parse_param uri hcolon uri.path_wf, serverUrlTransport_param]
        have hpath : pathRead (uri.path ++ transportText uri.transport) = pathSaid uri.path ↔ _ :=
          pathRead_append_eq_iff uri.path_wf _
        simp only [ServerUrl.mk.injEq, true_and, hpath]
    | outbound =>
        rw [render_outbound uri hcolon, parse_param uri hcolon (.inl rfl), serverUrlTransport_param]
        exact iff_of_true rfl trivial

/-! ### The port of any text -/

/-- The number a text begins with, as `strtoul` understands a sign. -/
def writtenNumber (s : CStr) : Int :=
  let (negative, rest) := strtoulSign (s.dropWhile isSpace)
  let value := Nat.ofDigitChars 10 (rest.takeWhile Char.isDigit) 0
  if negative then -value else value

/-- The number in sixteen bits; a number too large for `unsigned long` counts as the largest. -/
def castPort (n : Int) : Nat := if 2 ^ 64 ≤ n.natAbs then 2 ^ 16 - 1 else (n % 2 ^ 16).toNat

theorem castPort_value (negative : Bool) (value : Nat) :
    (if 2 ^ 64 ≤ value then 2 ^ 64 - 1 else if negative then (2 ^ 64 - value) % 2 ^ 64 else value) % 2 ^ 16 =
      castPort (if negative then -value else value) := by
  unfold castPort
  cases negative with
  | true =>
      simp only [if_true, Int.natAbs_neg, Int.natAbs_natCast]
      split_ifs <;> omega
  | false =>
      simp only [Bool.false_eq_true, if_false, Int.natAbs_natCast]
      split_ifs <;> omega

theorem strtoul16_eq (s : CStr) : strtoul16 s = castPort (writtenNumber s) := by
  unfold strtoul16 strtoul writtenNumber
  exact castPort_value _ _

/-- The transport and the default port of a URL. -/
def urlDefaultPort (url : CStr) : Nat :=
  outboundDefaultPort (serverUrlTransport (serverUrlScheme url).1 (serverUrlScheme url).2)

/-- The authority, without a user part. -/
def urlAuthority (url : CStr) : CStr :=
  let authority := (serverUrlScheme url).2.takeWhile inAuthority
  if '@' ∈ authority then past '@' authority else authority

/-- What stands in the brackets an authority begins with, and what follows them. -/
def cutBrackets : CStr → CStr × CStr
  | '[' :: inner => if ']' ∈ inner then (upTo ']' inner, past ']' inner) else ([], '[' :: inner)
  | authority => ([], authority)

/-- The port a URL should have: the number behind the colon that ends the host, if it is one for a port, and
else the default. -/
def saidPort (url : CStr) : Nat :=
  let hostport := (cutBrackets (urlAuthority url)).2
  let number := writtenNumber (past ':' hostport)
  if ':' ∈ hostport ∧ 0 < number ∧ number < 2 ^ 16 then number.toNat else urlDefaultPort url

/-- The port a number becomes. -/
def takenPort (defaultPort : Nat) (n : Int) : Nat := if castPort n = 0 then defaultPort else castPort n

/-- The URLs that get the port they say. A number that is none for a port is cut to sixteen bits, and what
remains of it may be zero or the default; and of an address in brackets the text behind its first colon may
happen to say the same. -/
def PortFits (url : CStr) : Prop :=
  let (literal, hostport) := cutBrackets (urlAuthority url)
  let number := writtenNumber (past ':' hostport)
  if ':' ∈ literal then takenPort (urlDefaultPort url) (writtenNumber (past ':' literal)) = saidPort url
  else
    ':' ∈ hostport → (0 ≤ number ∧ number < 2 ^ 16) ∨ castPort number = 0 ∨
      castPort number = urlDefaultPort url

theorem parseServerUrl_port (url : CStr) :
    (parseServerUrl 256 256 url).port =
      if ':' ∈ urlAuthority url then
        takenPort (urlDefaultPort url) (writtenNumber (past ':' (urlAuthority url)))
      else urlDefaultPort url := by
  unfold parseServerUrl takenPort
  simp only [← strtoul16_eq]
  unfold urlAuthority urlDefaultPort
  dsimp only
  split_ifs <;> rfl

/-- A number is written up to the first character that has no place in one. -/
theorem writtenNumber_append {c : Char} (hspace : isSpace c = false) (hminus : c ≠ '-') (hplus : c ≠ '+')
    (hdigit : c.isDigit = false) (s t : CStr) : writtenNumber (s ++ c :: t) = writtenNumber s := by
  unfold writtenNumber
  rw [dropWhile_append_stop hspace, strtoulSign_append hminus hplus]
  simp only [takeWhile_append_stop hdigit]

/-- An authority is a text in brackets and what follows it, or it has none. -/
theorem cutBrackets_cases (authority : CStr) :
    (∃ literal rest, authority = '[' :: literal ++ ']' :: rest ∧ cutBrackets authority = (literal, rest)) ∨
      cutBrackets authority = ([], authority) := by
  unfold cutBrackets
  split
  · rename_i inner
    split_ifs with hclose
    · obtain ⟨literal, rest, rfl, hnot⟩ := exists_cut hclose
      refine .inl ⟨literal, rest, rfl, ?_⟩
      rw [upTo_append hnot, past_append hnot]
    · exact .inr rfl
  · exact .inr rfl

/-- Of a number that is none for a port, the port is the default one only by chance. -/
theorem takenPort_eq_iff (n : Int) (defaultPort : Nat) :
    takenPort defaultPort n = (if 0 < n ∧ n < 2 ^ 16 then n.toNat else defaultPort) ↔
      (0 ≤ n ∧ n < 2 ^ 16) ∨ castPort n = 0 ∨ castPort n = defaultPort := by
  have hcast : 0 ≤ n → n < 2 ^ 16 → castPort n = n.toNat := by
    intro hle hlt
    unfold castPort
    rw [if_neg (by omega), Int.emod_eq_of_lt hle hlt]
  unfold takenPort
  by_cases hport : 0 < n ∧ n < 2 ^ 16
  · obtain ⟨hpos, hlt⟩ := hport
    rw [hcast hpos.le hlt, if_neg (by omega : ¬n.toNat = 0), if_pos ⟨hpos, hlt⟩]
    exact iff_of_true rfl (.inl ⟨hpos.le, hlt⟩)
  · rw [if_neg hport]
    by_cases hzero : castPort n = 0
    · rw [if_pos hzero]
      exact iff_of_true rfl (.inr (.inl hzero))
    · rw [if_neg hzero, or_iff_right hzero]
      refine (or_iff_right ?_).symm
      rintro ⟨hle, hlt⟩
      have hnull : n = 0 := by omega
      exact hzero (by rw [hcast hle hlt, hnull]; rfl)

/-- The port behind the first colon of a text, or the default. -/
theorem portBehind_eq_iff (hostport : CStr) (defaultPort : Nat) :
    (if ':' ∈ hostport then takenPort defaultPort (writtenNumber (past ':' hostport)) else defaultPort) =
      (if ':' ∈ hostport ∧ 0 < writtenNumber (past ':' hostport) ∧ writtenNumber (past ':' hostport) < 2 ^ 16
        then (writtenNumber (past ':' hostport)).toNat else defaultPort) ↔
      (':' ∈ hostport →
        (0 ≤ writtenNumber (past ':' hostport) ∧ writtenNumber (past ':' hostport) < 2 ^ 16) ∨
          castPort (writtenNumber (past ':' hostport)) = 0 ∨
            castPort (writtenNumber (past ':' hostport)) = defaultPort) := by
  by_cases hcolon : ':' ∈ hostport
  · simp only [hcolon, true_and, if_true, forall_const]
    exact takenPort_eq_iff _ _
  · simp only [hcolon, false_and, if_false, false_imp_iff]

/-- The port of a URL is the one it says exactly if it is one of those in `PortFits`. -/
theorem port_said_iff (url : CStr) :
    (parseServerUrl 256 256 url).port = saidPort url ↔ PortFits url := by
  rw [parseServerUrl_port]
  unfold PortFits saidPort
  rcases cutBrackets_cases (urlAuthority url) with ⟨literal, rest, hauthority, hcut⟩ | hcut
  · rw [hcut, hauthority]
    dsimp only
    by_cases hcolon : ':' ∈ literal
    · obtain ⟨u, v, rfl, hu⟩ := exists_cut hcolon
      have hopen : ':' ∉ '[' :: u := by
        rw [List.mem_cons, not_or]
        exact ⟨by decide, hu⟩
      have htext : '[' :: (u ++ ':' :: v) ++ ']' :: rest = ('[' :: u) ++ ':' :: (v ++ ']' :: rest) := by
        simp only [List.cons_append, List.append_assoc]
      rw [if_pos hcolon, htext, if_pos (List.mem_append_right _ List.mem_cons_self), past_append hopen,
        writtenNumber_append (by decide) (by decide) (by decide) (by decide), past_append hu]
    · have hbefore : ':' ∉ '[' :: literal ++ [']'] := by
        rw [List.cons_append, List.mem_cons, List.mem_append, List.mem_singleton, not_or, not_or]
        exact ⟨by decide, hcolon, by decide⟩
      have htext : '[' :: literal ++ ']' :: rest = '[' :: literal ++ [']'] ++ rest := by
        simp only [List.cons_append, List.append_assoc, List.nil_append]
      have hmem : ':' ∈ '[' :: literal ++ [']'] ++ rest ↔ ':' ∈ rest := by
        rw [List.mem_append, or_iff_right hbefore]
      have hpast : past ':' ('[' :: literal ++ [']'] ++ rest) = past ':' rest := past_append_of_notMem hbefore rest
      simp only [htext, hmem, hpast, if_neg hcolon]
      exact portBehind_eq_iff rest _
  · rw [hcut]
    dsimp only
    rw [if_neg (List.not_mem_nil)]
    exact portBehind_eq_iff (urlAuthority url) _

/-- **Server URLs** are read as they are meant exactly if they are among those in `Carried`, and the port is
the one written, or the default, exactly in those of `PortFits`. -/
theorem server_url_round_trip_iff (uri : ServerUri) (form : UrlForm) (url : CStr) :
    (parseServerUrl 256 256 (uri.render form) = uri.meaning form ↔ uri.Carried form) ∧
      ((parseServerUrl 256 256 url).port = saidPort url ↔ PortFits url) :=
  ⟨parse_render_iff uri form, port_said_iff url⟩

/-- A WebSocket server with an IPv6 address. -/
def addressServer : ServerUri where
  transport := .wss
  host := addressHost
  port := 8443
  path := "/ws".toList
  port_wf := by decide
  path_wf := .inr rfl

/-- Of `wss://[2001:db8::1]:8443/ws` the host is `[2001`, and the port 65537 is 1. -/
theorem server_url_loses_address :
    (¬ ∀ (uri : ServerUri) (form : UrlForm),
      parseServerUrl 256 256 (uri.render form) = uri.meaning form) ∧
      ¬ ∀ url : CStr, (parseServerUrl 256 256 url).port = saidPort url := by
  constructor
  · intro h
    exact absurd (congrArg ServerUrl.host (h addressServer .scheme)) (by decide +kernel)
  · intro h
    exact absurd (h "sip:pbx.example.com:65537".toList) (by decide +kernel)

end VoxSdk
