import TracingLexer.Proofs.Scanner.Run

namespace TracingLexer

namespace Scanner

variable {scanner next : Scanner}

def rescans (scanner : Scanner) : Nat → List Scan
  | 0 => []
  | count + 1 => scanner.scan :: scanner.scan.final.rescans count

@[simp] theorem text_take (scanner : Scanner) (segment : Segment) :
    (scanner.take segment).text = scanner.text := rfl

@[simp] theorem text_skip (scanner : Scanner) (covered : List Char) :
    (scanner.skip covered).text = scanner.text := rfl

theorem text_of_step? {found : Except ScanError Piece}
    (stepped : scanner.step? = some (found, next)) : next.text = scanner.text := by
  unfold step? at stepped
  split at stepped
  · cases stepped
  next c rest here =>
    split at stepped
    next segment read =>
      cases stepped
      exact text_take scanner segment
    next fault read =>
      cases stepped
      exact text_skip scanner fault.text

theorem text_final_run (scanner : Scanner) : scanner.run.final.text = scanner.text := by
  fun_induction run scanner with
  | case1 scanner stopped => rfl
  | case2 scanner error next stepped => exact text_of_step? stepped
  | case3 scanner piece next stepped scan ih => exact ih.trans (text_of_step? stepped)

theorem scan_of_text_eq {other : Scanner} (same : other.text = scanner.text) :
    other.scan = scanner.scan := by
  rw [scan, scan, reset, reset, same]

theorem text_final_scan (scanner : Scanner) : scanner.scan.final.text = scanner.text :=
  text_final_run scanner.reset

theorem rescans_eq_replicate (scanner : Scanner) (count : Nat) :
    scanner.rescans count = List.replicate count scanner.scan := by
  induction count generalizing scanner with
  | zero => rfl
  | succ count ih =>
      rw [rescans, ih, scan_of_text_eq (text_final_scan scanner), List.replicate_succ]

end Scanner

/-- What a caller learns from a scan: its tokens or its error and, from the scanner behind it, the
depth, the global names and the warnings. -/
def Scan.outcome (scan : Scan) :
    Except ScanError (List Token) × Nat × List String × List Warning :=
  (scan.tokens, scan.final.depth, scan.final.globals, scan.final.warnings)

/-- Each of the scans that one scanner makes in a row tells its caller what the only scan of a new
scanner tells. -/
theorem map_outcome_rescans (text : String) (count : Nat) :
    ((Scanner.ofText text.toList).rescans count).map Scan.outcome =
      List.replicate count
        (tokenize text, (scanText text).final.depth, (scanText text).final.globals,
          (scanText text).final.warnings) := by
  rw [Scanner.rescans_eq_replicate, List.map_replicate]
  rfl

example : ((Scanner.ofText "x=1\x7b/*".toList).rescans 3).map Scan.outcome =
    List.replicate 3 (.error ⟨.openComment [], 1, 4⟩, 1, ["x"], []) := by
  decide +kernel

end TracingLexer
