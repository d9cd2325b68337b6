import TracingLexer.Proofs.Scanner.Renumber
import TracingLexer.Proofs.Scanner.Traces

namespace TracingLexer

/-- The id of the first state; zero stands for that of a token without a trace. -/
def Token.firstId (token : Token) : Nat := (token.trace.head?.map State.id).getD 0

def State.traceOf (kind : Kind) (first : Nat) (symbols : List Symbol) : List State :=
  if kind = .character then linkAll (chain first symbols) else chain first symbols

theorem State.traceOf_add (kind : Kind) (first count : Nat) (symbols : List Symbol) :
    traceOf kind (first + count) symbols = (traceOf kind first symbols).map (raise count) := by
  unfold traceOf
  split
  · rw [chain_add, linkAll_map_raise]
  · exact chain_add first count symbols

theorem Segment.Reads.trace_eq {segment : Segment} {kind : Kind} {literal : String}
    (reads : Reads segment kind literal) (first : Nat) :
    segment.trace first = State.traceOf kind first segment.symbols := by
  cases reads with
  | word letters =>
      rw [State.traceOf, if_neg (wordKind_ne (by decide) _)]
      rfl
  | call function kept => cases function <;> rfl
  | _ => rfl

namespace Scanner

variable {scanner : Scanner} {segment : Segment} {segments : List Segment} {token : Token}

theorem firstId_of_tokenOf? (found : scanner.tokenOf? segment = some token) :
    token.firstId = scanner.nextId := by
  have positive := List.length_pos_iff.mpr (reads_of_tokenOf? found).symbols_ne_nil
  have ids := segment.map_id_trace scanner.nextId
  rw [Token.firstId, trace_of_tokenOf? found, ← List.head?_map, ids, List.head?_range',
    if_neg positive.ne']
  rfl

theorem trace_eq_traceOf (found : scanner.tokenOf? segment = some token) :
    token.trace = State.traceOf token.kind token.firstId token.shape := by
  have trace_eq := trace_of_tokenOf? found
  rw [firstId_of_tokenOf? found, Token.shape, trace_eq, Segment.map_symbol_trace]
  exact (reads_of_tokenOf? found).trace_eq scanner.nextId

theorem nextId_le_firstId (member : token ∈ scanner.tokensOf segments) :
    scanner.nextId ≤ token.firstId := by
  induction segments generalizing scanner with
  | nil => exact absurd member List.not_mem_nil
  | cons segment segments ih =>
      rw [tokensOf_cons, List.mem_append] at member
      rcases member with here | later
      · exact (firstId_of_tokenOf? (Option.mem_toList.mp here)).ge
      · exact Nat.le_trans (Nat.le_add_right _ _) (ih later)

theorem pairwise_firstId (scanner : Scanner) (segments : List Segment) :
    (scanner.tokensOf segments).Pairwise (·.firstId ≤ ·.firstId) := by
  induction segments generalizing scanner with
  | nil => exact .nil
  | cons segment segments ih =>
      rw [tokensOf_cons]
      cases found : scanner.tokenOf? segment with
      | none => exact ih (scanner.take segment)
      | some token =>
          refine List.pairwise_cons.mpr ⟨?_, ih (scanner.take segment)⟩
          intro later member
          rw [firstId_of_tokenOf? found]
          exact Nat.le_trans (Nat.le_add_right _ _) (nextId_le_firstId member)

end Scanner

variable {text : String} {tokens : List Token}

theorem trace_eq_of_tokenize (scanned : tokenize text = .ok tokens) {token : Token}
    (member : token ∈ tokens) (notEnd : token.kind ≠ .eof) :
    token.trace = State.traceOf token.kind token.firstId token.shape := by
  obtain ⟨segment, _, reader, _, found⟩ := exists_segment_of_tokenize scanned member notEnd
  exact Scanner.trace_eq_traceOf found

theorem map_id_of_tokenize (scanned : tokenize text = .ok tokens) {token : Token}
    (member : token ∈ tokens) (notEnd : token.kind ≠ .eof) :
    token.trace.map State.id = List.range' token.firstId token.shape.length := by
  obtain ⟨segment, _, reader, _, found⟩ := exists_segment_of_tokenize scanned member notEnd
  rw [Token.shape, Scanner.firstId_of_tokenOf? found, Scanner.trace_of_tokenOf? found,
    Segment.map_id_trace, Segment.map_symbol_trace]

theorem getElem?_of_append_eof {body : List Token} {place : Nat} {token : Token}
    (present : (body ++ [Token.eof])[place]? = some token) (notEnd : token.kind ≠ .eof) :
    body[place]? = some token := by
  rcases Nat.lt_or_ge place body.length with below | behind
  · rwa [List.getElem?_append_left below] at present
  · rw [List.getElem?_append_right behind] at present
    rw [List.mem_singleton.mp (List.mem_of_getElem? present)] at notEnd
    exact absurd rfl notEnd

theorem firstId_le_of_tokenize (scanned : tokenize text = .ok tokens) {early late : Nat}
    {former latter : Token} (formerIn : tokens[early]? = some former)
    (latterIn : tokens[late]? = some latter) (formerNotEnd : former.kind ≠ .eof)
    (latterNotEnd : latter.kind ≠ .eof) (order : early ≤ late) :
    former.firstId ≤ latter.firstId := by
  obtain ⟨segments, _, _, rfl⟩ := tokenize_eq_ok_iff.mp scanned
  obtain ⟨earlyBelow, rfl⟩ :=
    List.getElem?_eq_some_iff.mp (getElem?_of_append_eof formerIn formerNotEnd)
  obtain ⟨lateBelow, rfl⟩ :=
    List.getElem?_eq_some_iff.mp (getElem?_of_append_eof latterIn latterNotEnd)
  rcases Nat.lt_or_eq_of_le order with before | rfl
  · exact List.pairwise_iff_getElem.mp (Scanner.pairwise_firstId _ segments) early late earlyBelow
      lateBelow before
  · exact Nat.le_refl _

end TracingLexer
