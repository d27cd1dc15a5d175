import VoxSdk.Lib.Printer
import VoxSdk.WsPath

/-!
# Headers of the WebSocket upgrade

The second half of `websock_connect` of `ws_path.c`: the Origin and the extra headers of the configuration are
printed behind one another into 1024 bytes and appended to the caller's format, which libre then expands with
no arguments.
-/

namespace VoxSdk

open Text

/-- `ws_origin` and `ws_extra_headers` of the configuration, either possibly `NULL`. -/
structure UpgradeConfig where
  wsOrigin : Option CStr
  wsExtraHeaders : Option (List CStr)

def crlf : CStr := ['\r', '\n']

/-- What `transp.c` passes as `fmt`. -/
def protocolHeader : CStr := "Sec-WebSocket-Protocol: sip\r\n".toList

/-- A format and no arguments. Every directive but `%%` asks for one. -/
def expandFormat : CStr → Option CStr
  | [] => some []
  | c :: fmt =>
      if c = '%' then
        match fmt with
        | [] => none
        | d :: fmt => if d = '%' then (expandFormat fmt).map ('%' :: ·) else none
      else (expandFormat fmt).map (c :: ·)

namespace UpgradeConfig

variable (reSnprintf : Printer Char) (cfg : UpgradeConfig)

/-- `extra`, in 1024 bytes. -/
def extra : CStr :=
  let extra :=
    match cfg.wsOrigin with
    | some (c :: origin) => reSnprintf.append 1024 [] ["Origin: ".toList, c :: origin, crlf]
    | _ => []
  match cfg.wsExtraHeaders with
  | none => extra
  | some headers => headers.foldl (fun extra header => reSnprintf.append 1024 extra [header, crlf]) extra

/-- The format `__real_websock_connect` is given for `fmt`. -/
def newFmt (fmt : CStr) : CStr :=
  if cfg.extra reSnprintf ≠ [] then reSnprintf.print 2048 [fmt, cfg.extra reSnprintf] else fmt

end UpgradeConfig

end VoxSdk
