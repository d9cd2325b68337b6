import TracingLexer.Source.Problem
import TracingLexer.Source.Reader

namespace TracingLexer

structure Scanner where
  text : List Char
  rest : List Char
  offset : Nat
  line : Nat
  nextId : Nat
  depth : Nat
  globals : List String
  warnings : List Warning
  deriving DecidableEq, Repr

structure Piece where
  segment : Segment
  token : Option Token
  deriving DecidableEq

/-- What a scanner read from where it stood to the end, or to the error that stopped it. -/
structure Scan where
  pieces : List Piece
  error : Option ScanError
  final : Scanner
  deriving DecidableEq

def Scan.tokens (scan : Scan) : Except ScanError (List Token) :=
  match scan.error with
  | some error => .error error
  | none => .ok (scan.pieces.filterMap (·.token) ++ [Token.eof])

namespace Scanner

def ofText (text : List Char) : Scanner :=
  { text, rest := text, offset := 0, line := 1, nextId := 0, depth := 0, globals := [],
    warnings := [] }

def reset (scanner : Scanner) : Scanner :=
  { scanner with
    rest := scanner.text, offset := 0, line := 1, nextId := 0, depth := 0, globals := [],
    warnings := [] }

def skip (scanner : Scanner) (covered : List Char) : Scanner :=
  { scanner with
    rest := scanner.rest.drop covered.length
    offset := scanner.offset + covered.length
    line := scanner.line + covered.count '\n' }

def scope (scanner : Scanner) : Scope := if scanner.depth = 0 then .global else .nested

def tokenOf? (scanner : Scanner) (segment : Segment) : Option Token :=
  segment.reading?.map fun (kind, literal) =>
    { kind, literal, trace := segment.trace scanner.nextId
      scope := if kind = .identifier then some scanner.scope else none }

/-- The depth after a segment; a closing brace too many is ignored. -/
def depthAfter (depth : Nat) : Segment → Nat
  | .punctuator '{' => depth + 1
  | .punctuator '}' => depth - 1
  | _ => depth

/-- The global names once the text before `next` is read. An identifier outside of every block is
assigned when an equals sign follows it directly. -/
def globalsAfter (scanner : Scanner) (token : Option Token) (next : Option Char) : List String :=
  match token with
  | some token =>
      if token.scope = some .global ∧ next = some '=' then scanner.globals.insert token.literal
      else scanner.globals
  | none => scanner.globals

def warningsAfter (scanner : Scanner) : Segment → List Warning
  | .string _ false => scanner.warnings ++ [⟨scanner.line⟩]
  | _ => scanner.warnings

def take (scanner : Scanner) (segment : Segment) : Scanner :=
  let moved := scanner.skip segment.text
  { moved with
    nextId := scanner.nextId + segment.symbols.length
    depth := depthAfter scanner.depth segment
    globals := scanner.globalsAfter (scanner.tokenOf? segment) moved.rest.head?
    warnings := scanner.warningsAfter segment }

/-- One step: the piece or the error at the front of the rest, and the scanner behind it. There is
none at the end of the text. -/
def step? (scanner : Scanner) : Option (Except ScanError Piece × Scanner) :=
  match scanner.rest with
  | [] => none
  | c :: rest =>
      match Segment.read c rest with
      | .ok segment => some (.ok ⟨segment, scanner.tokenOf? segment⟩, scanner.take segment)
      | .error fault =>
          some (.error ⟨fault, scanner.line, scanner.offset⟩, scanner.skip fault.text)

theorem length_rest_of_step? {scanner next : Scanner} {found : Except ScanError Piece}
    (stepped : scanner.step? = some (found, next)) : next.rest.length < scanner.rest.length := by
  unfold step? at stepped
  split at stepped
  · simp at stepped
  next c rest same =>
    have nonempty := Segment.consumed_read_ne_nil c rest
    have positive := List.length_pos_iff.mpr nonempty
    split at stepped
    next segment read =>
      simp only [Option.some.injEq, Prod.mk.injEq] at stepped
      simp only [read, Segment.consumed] at positive
      simp only [← stepped.2, take, skip, List.length_drop, same, List.length_cons]
      omega
    next fault read =>
      simp only [Option.some.injEq, Prod.mk.injEq] at stepped
      simp only [read, Segment.consumed] at positive
      simp only [← stepped.2, skip, List.length_drop, same, List.length_cons]
      omega

def run (scanner : Scanner) : Scan :=
  match _stepped : scanner.step? with
  | none => ⟨[], none, scanner⟩
  | some (.error error, next) => ⟨[], some error, next⟩
  | some (.ok piece, next) =>
      let scan := next.run
      { scan with pieces := piece :: scan.pieces }
termination_by scanner.rest.length
decreasing_by exact length_rest_of_step? _stepped

/-- Scans the whole text from its start, whatever the scanner has read before. -/
def scan (scanner : Scanner) : Scan := scanner.reset.run

end Scanner

def scanText (text : String) : Scan := (Scanner.ofText text.toList).scan

def tokenize (text : String) : Except ScanError (List Token) := (scanText text).tokens

end TracingLexer
