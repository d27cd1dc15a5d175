import VoxSdk.Dns
import VoxSdk.Lib.Text

/-!
# Codec lists

`account.c` writes the codecs an account may offer into a buffer of `configure_baresip_account`, as the
comma-separated list baresip reads: from the names or the enum values that are configured for the account, or
else for all accounts.
-/

namespace VoxSdk

/-- `voxsdk_codec_t`, and a number that is none of its constants. -/
inductive Codec where
  | opus
  | pcmu
  | pcma
  | g722
  | g726_32
  | other (value : Int)
  deriving DecidableEq, Repr

/-- `strncat(buf, s, n)`. -/
def strncat (buf s : CStr) (n : Nat) : CStr := buf ++ s.take n

/-- `normalize_codec_name`, of a name that is not NULL. -/
def normalizeCodecName (name : CStr) : Option CStr :=
  if name = [] then none
  else if strCaseEq name "opus" then some "opus/48000/2".toList
  else if strCaseEq name "ulaw" || strCaseEq name "g711u" || strCaseEq name "pcmu" then
    some "PCMU/8000/1".toList
  else if strCaseEq name "alaw" || strCaseEq name "g711a" || strCaseEq name "pcma" then
    some "PCMA/8000/1".toList
  else if strCaseEq name "g722" then some "G722/8000/1".toList
  else if strCaseEq name "g729" then some "G729/8000/1".toList
  else if strCaseEq name "g726" || strCaseEq name "g726-32" then some "G726-32/8000/1".toList
  else some name

/-- The `switch` of `codec_list_str`. -/
def codecName : Codec → Option CStr
  | .opus => some "opus/48000/2".toList
  | .pcmu => some "PCMU/8000/1".toList
  | .pcma => some "PCMA/8000/1".toList
  | .g722 => some "G722/8000/1".toList
  | .g726_32 => some "G726-32/8000/1".toList
  | .other _ => none

/-- One more name behind what is in the `sz` bytes: two calls of `strncat`, each with what is left of them. -/
def appendName (sz : Nat) (buf name : CStr) : CStr :=
  let buf := if buf ≠ [] then strncat buf [','] (sz - buf.length - 1) else buf
  strncat buf name (sz - buf.length - 1)

/-- The loop over an array, from its entry `i` on. -/
def listStrFrom {α : Type} (resolve : α → Option CStr) (count : Int) (sz : Nat) : Nat → List α → CStr → CStr
  | _, [], buf => buf
  | i, entry :: entries, buf =>
      if (i : Int) < count ∧ i < 8 then
        match resolve entry with
        | none => listStrFrom resolve count sz (i + 1) entries buf
        | some name => listStrFrom resolve count sz (i + 1) entries (appendName sz buf name)
      else buf

/-- `codec_list_str`. -/
def codecListStr (codecs : List Codec) (count : Int) (sz : Nat) : CStr :=
  listStrFrom codecName count sz 0 codecs []

/-- `codec_names_list_str`. -/
def codecNamesListStr (names : List CStr) (count : Int) (sz : Nat) : CStr :=
  listStrFrom normalizeCodecName count sz 0 names []

/-- `VOX_DEFAULT_AUDIO_CODECS`. -/
def voxDefaultAudioCodecs : CStr := "opus/48000/2,PCMU/8000/1,PCMA/8000/1".toList

/-- The codec fields of `voxsdk_account_config_t`, and those of `voxsdk_config_t`. -/
structure CodecCfg where
  audioCodecNames : List CStr
  audioCodecNameCount : Int
  audioCodecs : List Codec
  audioCodecCount : Int

/-- `sizeof(codecs)`. -/
def codecsSize : Nat := 256

/-- `configure_baresip_account`, what it gives `account_set_audio_codecs`. -/
def configureAudioCodecs (acct cfg : CodecCfg) : CStr :=
  let codecs :=
    if acct.audioCodecNameCount > 0 then
      codecNamesListStr acct.audioCodecNames acct.audioCodecNameCount codecsSize
    else if acct.audioCodecCount > 0 then codecListStr acct.audioCodecs acct.audioCodecCount codecsSize
    else if cfg.audioCodecNameCount > 0 then
      codecNamesListStr cfg.audioCodecNames cfg.audioCodecNameCount codecsSize
    else if cfg.audioCodecCount > 0 then codecListStr cfg.audioCodecs cfg.audioCodecCount codecsSize
    else []
  if codecs = [] then strNcpy codecsSize voxDefaultAudioCodecs else codecs

end VoxSdk
