import VoxSdk.WsHeaders

/-!
# Which headers the upgrade carries

A header that fits the room left is printed whole, of one that does not fit there is what libre's formatter
leaves. Then all of it is taken for a format: a percent sign of the configuration is read as a directive.
-/

namespace VoxSdk

open Text

/-! ### Formats -/

theorem expandFormat_cons {c : Char} (hc : c ≠ '%') (fmt : CStr) :
    expandFormat (c :: fmt) = (expandFormat fmt).map (c :: ·) := by
  rw [expandFormat.eq_def]
  exact if_neg hc

theorem expandFormat_of_notMem {fmt : CStr} (h : '%' ∉ fmt) : expandFormat fmt = some fmt := by
  induction fmt with
  | nil => rfl
  | cons c fmt ih =>
      obtain ⟨hc, hfmt⟩ := not_or.mp (List.mem_cons.not.mp h)
      rw [expandFormat_cons (Ne.symm hc), ih hfmt]
      rfl

/-- Every directive that is read is longer than what comes of it. -/
theorem length_expandFormat (fmt : CStr) {text : CStr} (h : expandFormat fmt = some text) :
    text.length ≤ fmt.length ∧ ('%' ∈ fmt → text.length < fmt.length) := by
  induction fmt using expandFormat.induct generalizing text with
  | case1 =>
      cases h
      exact ⟨le_rfl, fun hmem => absurd hmem List.not_mem_nil⟩
  | case2 => cases h
  | case3 fmt ih =>
      have h : (expandFormat fmt).map ('%' :: ·) = some text := h
      obtain ⟨rest, hrest, rfl⟩ := Option.map_eq_some_iff.mp h
      have hlen := (ih hrest).1
      simp only [List.length_cons]
      exact ⟨by omega, fun _ => by omega⟩
  | case4 d fmt hd =>
      have h : (if d = '%' then (expandFormat fmt).map ('%' :: ·) else none) = some text := h
      rw [if_neg hd] at h
      cases h
  | case5 c fmt hc ih =>
      rw [expandFormat_cons hc] at h
      obtain ⟨rest, hrest, rfl⟩ := Option.map_eq_some_iff.mp h
      obtain ⟨hle, hlt⟩ := ih hrest
      simp only [List.length_cons]
      refine ⟨by omega, fun hmem => ?_⟩
      have hrest := hlt ((List.mem_cons.mp hmem).resolve_left (Ne.symm hc))
      omega

/-- Only a format without directives stays what it is. -/
theorem expandFormat_eq_self_iff {fmt : CStr} : expandFormat fmt = some fmt ↔ '%' ∉ fmt := by
  constructor
  · intro heq hmem
    exact lt_irrefl _ ((length_expandFormat fmt heq).2 hmem)
  · exact expandFormat_of_notMem

namespace UpgradeConfig

variable (reSnprintf : Printer Char) (cfg : UpgradeConfig)

/-! ### The lines -/

/-- The lines to be sent, in the pieces they are printed in. -/
def lines : List (List CStr) :=
  (match cfg.wsOrigin with
    | some (c :: origin) => [["Origin: ".toList, c :: origin, crlf]]
    | _ => []) ++ (cfg.wsExtraHeaders.getD []).map fun header => [header, crlf]

/-- What each line leaves in the 1024 bytes. -/
def parts : List CStr := reSnprintf.parts 1024 cfg.lines

/-- Each line goes out whole or not at all, and all of them where they fit; and libre adds to and takes from
them nothing. -/
structure SendsWhole : Prop where
  whole : List.Forall₂ (fun part line => part = line.flatten ∨ part = []) (cfg.parts reSnprintf) cfg.lines
  complete : cfg.lines.flatten.flatten.length < 1024 → cfg.parts reSnprintf = cfg.lines.map List.flatten
  verbatim : expandFormat (cfg.newFmt reSnprintf protocolHeader) =
    some (protocolHeader ++ (cfg.parts reSnprintf).flatten)

variable {reSnprintf cfg}

theorem extra_eq_printAll : cfg.extra reSnprintf = reSnprintf.printAll 1024 [] cfg.lines := by
  obtain ⟨wsOrigin, wsExtraHeaders⟩ := cfg
  unfold extra lines Printer.printAll
  rw [List.foldl_append, List.foldl_map]
  rcases wsOrigin with _ | _ | ⟨c, origin⟩ <;> cases wsExtraHeaders <;> rfl

theorem extra_eq : cfg.extra reSnprintf = (cfg.parts reSnprintf).flatten := by
  rw [extra_eq_printAll, Printer.printAll_eq (by decide)]
  rfl

/-- The second buffer is large enough for the first. -/
theorem newFmt_eq : cfg.newFmt reSnprintf protocolHeader = protocolHeader ++ (cfg.parts reSnprintf).flatten := by
  have hextra : (cfg.extra reSnprintf).length < 1024 := by
    rw [extra_eq_printAll]
    exact Printer.length_printAll_lt (by decide)
  have hheader : protocolHeader.length = 29 := by decide
  rw [← extra_eq]
  unfold newFmt
  split
  · have hfits : Fits 2048 [protocolHeader, cfg.extra reSnprintf] := by
      unfold Fits
      rw [List.flatten_cons, List.flatten_singleton, List.length_append]
      omega
    rw [Printer.print_of_fits hfits, List.flatten_cons, List.flatten_singleton]
  · rename_i hnone
    rw [not_not.mp hnone, List.append_nil]

/-- **The upgrade headers.** Each configured header goes out whole or not at all, verbatim, and all of them where
they fit, if and only if libre's formatter leaves nothing of those that do not fit, and those that fit have no
percent sign. -/
theorem upgrade_headers_whole_iff (reSnprintf : Printer Char) (cfg : UpgradeConfig) :
    cfg.SendsWhole reSnprintf ↔
      reSnprintf.NeverCuts 1024 cfg.lines ∧ ∀ line ∈ fitting 1024 cfg.lines, '%' ∉ line.flatten := by
  have hverbatim (hcuts : reSnprintf.NeverCuts 1024 cfg.lines) :
      expandFormat (cfg.newFmt reSnprintf protocolHeader) =
          some (protocolHeader ++ (cfg.parts reSnprintf).flatten) ↔
        ∀ line ∈ fitting 1024 cfg.lines, '%' ∉ line.flatten := by
    have hheader : '%' ∉ protocolHeader := by decide
    rw [newFmt_eq, expandFormat_eq_self_iff, parts, Printer.flatten_parts hcuts, List.mem_append,
      or_iff_right hheader, List.mem_flatten]
    constructor
    · intro hnone line hline hmem
      exact hnone ⟨line.flatten, List.mem_map_of_mem hline, hmem⟩
    · rintro hnone ⟨text, htext, hmem⟩
      obtain ⟨line, hline, rfl⟩ := List.mem_map.mp htext
      exact hnone line hline hmem
  constructor
  · intro h
    have hcuts := (Printer.whole_iff (by decide)).mp h.whole
    exact ⟨hcuts, (hverbatim hcuts).mp h.verbatim⟩
  · rintro ⟨hcuts, hplain⟩
    exact ⟨(Printer.whole_iff (by decide)).mpr hcuts, fun hfits => Printer.parts_of_fits hfits,
      (hverbatim hcuts).mpr hplain⟩

/-- `50%%` goes out as `50%`. -/
theorem upgrade_headers_read_directives :
    ¬∀ (reSnprintf : Printer Char) (cfg : UpgradeConfig),
      (∀ header ∈ cfg.wsOrigin.toList ++ cfg.wsExtraHeaders.getD [], '\r' ∉ header ∧ '\n' ∉ header) →
        cfg.SendsWhole reSnprintf := by
  intro h
  have hsends := h (wholePieces Char) { wsOrigin := none, wsExtraHeaders := some ["X-Load: 50%%".toList] }
    (by decide)
  have hread : expandFormat (newFmt (wholePieces Char)
      { wsOrigin := none, wsExtraHeaders := some ["X-Load: 50%%".toList] } protocolHeader) =
      some (protocolHeader ++ "X-Load: 50%".toList ++ crlf) := by
    decide +kernel
  exact absurd (hread.symm.trans hsends.verbatim) (by decide +kernel)

end UpgradeConfig

end VoxSdk
