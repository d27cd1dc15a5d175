import VoxSdk.Lib.Text
import VoxSdk.Registration

/-!
# The outbound URI of an account

How `create_fn` takes the login URI and the server of an account apart (`parse_account_uri`,
`vox_parse_server_url`), and the outbound URI that `configure_baresip_account` gives baresip. The texts
that are rendered fit the 512 bytes of their buffers; only hosts and paths are cut.
-/

namespace VoxSdk

open Text

/-! ### C strings -/

/-- The sign of a number, and what follows. -/
def strtoulSign : CStr → Bool × CStr
  | '-' :: rest => (true, rest)
  | '+' :: rest => (false, rest)
  | rest => (false, rest)

/-- `strtoul(s, NULL, 10)`. -/
def strtoul (s : CStr) : Nat :=
  let (negative, rest) := strtoulSign (s.dropWhile isSpace)
  let value := Nat.ofDigitChars 10 (rest.takeWhile Char.isDigit) 0
  if 2 ^ 64 ≤ value then 2 ^ 64 - 1
  else if negative then (2 ^ 64 - value) % 2 ^ 64
  else value

/-- `(uint16_t)strtoul(s, NULL, 10)`. -/
def strtoul16 (s : CStr) : Nat := strtoul s % 2 ^ 16

/-- `strncmp(s, p, strlen(p)) == 0`. -/
def startsWith (p s : CStr) : Bool := p.isPrefixOf s

/-- `strncasecmp(s, p, strlen(p)) == 0`, for a `p` in small letters. -/
def startsWithCase (p s : CStr) : Bool := decide ((s.take p.length).map Char.toLower = p)

/-- `strstr(s, p)`, moved behind the `p` it found. -/
def strstr (p : CStr) : CStr → Option CStr
  | [] => none
  | c :: s => if startsWith p (c :: s) then some ((c :: s).drop p.length) else strstr p s

/-! ### The login URI -/

/-- What `parse_account_uri` finds. -/
structure AccountUri where
  user : CStr
  host : CStr
  port : Nat
  deriving DecidableEq

/-- A host with or without a port, neither in brackets. -/
def parseHostPort (user : CStr) (hostSz : Nat) (hp : CStr) : AccountUri :=
  if ':' ∈ hp then { user, host := strNcpy hostSz (upTo ':' hp), port := strtoul16 (past ':' hp) }
  else { user, host := strNcpy hostSz hp, port := 0 }

/-- Without the scheme `sip:` or `sips:`. -/
def stripScheme (uri : CStr) : CStr :=
  if startsWithCase "sip:".toList uri then uri.drop 4
  else if startsWithCase "sips:".toList uri then uri.drop 5
  else uri

/-- `parse_account_uri`. -/
def parseAccountUri (userSz hostSz : Nat) (uri : CStr) : AccountUri :=
  let uri := stripScheme uri
  if '@' ∉ uri then parseHostPort [] hostSz uri
  else
    let user := strNcpy userSz (upTo '@' uri)
    let hp := upTo ';' (past '@' uri)
    match hp with
    | '[' :: inner =>
        if ']' ∈ inner then
          { user
            host := strNcpy hostSz (upTo ']' inner)
            port :=
              match past ']' inner with
              | ':' :: digits => strtoul16 digits
              | _ => 0 }
        else { user, host := strNcpy hostSz hp, port := 0 }
    | _ => parseHostPort user hostSz hp

/-- What `voxsdk_account_get_aor` prints. -/
def AccountUri.aor (a : AccountUri) : CStr :=
  if ':' ∈ a.host then "sip:".toList ++ a.user ++ "@[".toList ++ a.host ++ "]".toList
  else "sip:".toList ++ a.user ++ "@".toList ++ a.host

/-- `voxsdk_account_get_aor`, into a buffer of `sz` bytes. -/
def AccountUri.getAor (sz : Nat) (a : AccountUri) : Except VoxError CStr :=
  if sz = 0 then .error .inval
  else if a.aor.length < sz then .ok a.aor
  else .error .nomem

/-! ### The server URL -/

/-- What `vox_parse_server_url` finds. -/
structure ServerUrl where
  transport : Transport
  host : CStr
  port : Nat
  path : CStr
  deriving DecidableEq

/-- `if (rest[0] == '/' && rest[1] == '/') rest += 2`. -/
def skipSlashes : CStr → CStr
  | '/' :: '/' :: rest => rest
  | rest => rest

/-- The scheme: its transport, and what follows. -/
def serverUrlScheme (url : CStr) : Transport × CStr :=
  if startsWith "wss://".toList url then (.wss, url.drop 6)
  else if startsWith "ws://".toList url then (.ws, url.drop 5)
  else if startsWith "sips:".toList url then (.tls, skipSlashes (url.drop 5))
  else if startsWith "sip:".toList url then (.udp, skipSlashes (url.drop 4))
  else (.udp, url)

/-- The `;transport=` override. -/
def serverUrlTransport (transport : Transport) (rest : CStr) : Transport :=
  match strstr ";transport=".toList rest with
  | none => transport
  | some tv =>
      if startsWithCase "wss".toList tv then .wss
      else if startsWithCase "ws".toList tv then .ws
      else if startsWithCase "tls".toList tv then .tls
      else if startsWithCase "tcp".toList tv then .tcp
      else if startsWithCase "udp".toList tv then .udp
      else transport

/-- Neither '/' nor ';': a character of the authority. -/
def inAuthority (c : Char) : Bool := c ≠ '/' && c ≠ ';'

/-- `vox_parse_server_url`. Every transport comes with the default port of `outboundDefaultPort`. -/
def parseServerUrl (hostSz pathSz : Nat) (url : CStr) : ServerUrl :=
  let (transport, rest) := serverUrlScheme url
  let transport := serverUrlTransport transport rest
  let defaultPort := outboundDefaultPort transport
  let authority := rest.takeWhile inAuthority
  let authority := if '@' ∈ authority then past '@' authority else authority
  let path :=
    match rest.dropWhile inAuthority with
    | '/' :: c :: path => if c = ';' then [] else strNcpy pathSz ('/' :: c :: path)
    | _ => []
  if ':' ∈ authority then
    let port := strtoul16 (past ':' authority)
    { transport, host := strNcpy hostSz (upTo ':' authority)
      port := if port = 0 then defaultPort else port, path }
  else { transport, host := strNcpy hostSz authority, port := defaultPort, path }

/-! ### The account -/

/-- `sip:%s:%u;transport=%s`. -/
def outboundUri (host : CStr) (port : Nat) (transport : Transport) : CStr :=
  "sip:".toList ++ host ++ ":".toList ++ (Nat.repr port).toList
    ++ ";transport=".toList ++ transportStr transport

/-- `vox_build_outbound`. -/
def buildOutbound (serverUrl : Option CStr) (serverHost : CStr) (serverPort : Nat)
    (transport : Transport) : CStr :=
  match serverUrl with
  | some url =>
      let server := parseServerUrl 256 256 url
      outboundUri server.host server.port server.transport
  | none => buildOutboundHost serverHost serverPort transport

/-- `voxsdk_account_config_t`, as far as the modelled functions read it. -/
structure AccountConfig where
  uri : CStr
  transport : Transport
  serverHost : Option CStr
  serverPort : Nat
  serverUrl : Option CStr
  outbound : Option CStr
  outboundProxy : Option CStr
  iceEnabled : Bool
  pushProvider : PushProvider
  pushParam : Option CStr

/-- An account's configuration as `create_fn` leaves it, with its `auto_server_url`. -/
structure CreatedCfg where
  cfg : AccountCfg
  autoServerUrl : CStr

/-- The scheme of the URL `create_fn` makes up. -/
def autoScheme : Transport → CStr
  | .wss => "wss".toList
  | .ws => "ws".toList
  | .tls => "sips".toList
  | .tcp => "sip".toList
  | .udp => "sip".toList

/-- `create_fn`, up to the parsed server. -/
def AccountConfig.createFn (c : AccountConfig) : CreatedCfg :=
  let parsed := parseAccountUri 64 256 c.uri
  let cfg : AccountCfg :=
    { outbound := c.outbound
      outboundProxy := c.outboundProxy
      serverUrl := c.serverUrl
      serverHost := c.serverHost
      serverPort := c.serverPort
      parsedHost := parsed.host
      parsedPort := parsed.port
      parsedTransport := c.transport
      iceEnabled := c.iceEnabled
      pushProvider := c.pushProvider
      pushParam := c.pushParam }
  match c.serverUrl with
  | some url =>
      let server := parseServerUrl 256 256 url
      { cfg :=
          { cfg with
            parsedHost := if parsed.host = [] then server.host else parsed.host
            parsedPort := server.port
            parsedTransport := server.transport }
        autoServerUrl := [] }
  | none =>
      let port := if parsed.port = 0 then outboundDefaultPort c.transport else parsed.port
      { cfg
        autoServerUrl :=
          autoScheme c.transport ++ "://".toList ++ parsed.host ++ ":".toList ++ (Nat.repr port).toList }

/-- The outbound URI `configure_baresip_account` sets, if it sets one. -/
def CreatedCfg.outbound (g : Cfg) (a : CreatedCfg) : Option CStr :=
  match a.cfg.outbound, a.cfg.outboundProxy, g.outboundProxy with
  | some ob, _, _ => some ob
  | none, some ob, _ => some ob
  | none, none, some ob => some ob
  | none, none, none =>
      let surl :=
        match a.cfg.serverUrl with
        | some url => some url
        | none => if a.autoServerUrl = [] then none else some a.autoServerUrl
      let shost :=
        match a.cfg.serverHost with
        | some (c :: cs) => c :: cs
        | _ => a.cfg.parsedHost
      let sport := if a.cfg.serverPort = 0 then a.cfg.parsedPort else a.cfg.serverPort
      if surl.isSome || decide (shost ≠ []) then
        some (buildOutbound surl shost sport a.cfg.parsedTransport)
      else none

end VoxSdk
