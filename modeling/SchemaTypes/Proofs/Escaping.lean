import SchemaTypes.Proofs.Path

/-! Escaped segments: escaping is two replacements, of tildes and then of slashes, and is undone by the
two replacements the other way round. So a name stands in a reference as one segment, and the position
in a message is read back as the path of the node that failed. -/
namespace SchemaTypes

namespace Pointer

/-- A character of a segment when tildes are escaped already and slashes are not. -/
def escapeSlash (c : Char) : List Char := if c = '/' then ['~', '1'] else [c]

theorem escapeTilde_slashes (c : Char) : (escapeTilde c).flatMap escapeSlash = escapeChar c := by
  by_cases tilde : c = '~'
  · subst tilde
    rfl
  · simp only [escapeTilde, escapeChar, if_neg tilde, List.flatMap_singleton]
    rfl

/-- Tildes are replaced first, so that those put in for slashes stay as they are. -/
theorem escape_eq_replaced (segment : String) : (escape segment).toList =
    (segment.toList.flatMap escapeTilde).flatMap escapeSlash := by
  rw [escape, String.toList_ofList, List.flatMap_assoc]
  simp only [escapeTilde_slashes]

end Pointer

namespace Reference

variable {keyword fragment name : String}

theorem keyword_cases (listed : keyword ∈ Definitions.keywords) :
    keyword = "definitions" ∨ keyword = "$defs" := by
  simpa [Definitions.keywords] using listed

/-- The fragments that name a definition, block by block. -/
theorem definitionName?_iff : definitionName? fragment = some name ↔
    ∃ segment : String, (fragment = "/definitions/" ++ segment ∨ fragment = "/$defs/" ++ segment) ∧
      segment ≠ "" ∧ '/' ∉ segment.toList ∧ Pointer.unescape segment = name := by
  rw [definitionName?_eq_some]
  constructor
  · rintro ⟨keyword, listed, segment, full, closed, rfl, rfl⟩
    refine ⟨segment, ?_, full, closed, rfl⟩
    rcases keyword_cases listed with rfl | rfl
    · exact .inl rfl
    · exact .inr rfl
  · rintro ⟨segment, rfl | rfl, full, closed, rfl⟩
    · exact ⟨"definitions", by decide, segment, full, closed, rfl, rfl⟩
    · exact ⟨"$defs", by decide, segment, full, closed, rfl, rfl⟩

/-- A name that is not empty is found behind either keyword when it is escaped there. -/
theorem definitionName?_escape {front : String}
    (block : front = "/definitions/" ∨ front = "/$defs/") :
    definitionName? (front ++ Pointer.escape name) = some name ↔ name ≠ "" := by
  constructor
  · rintro found rfl
    rcases block with rfl | rfl <;> exact absurd found (by decide)
  · intro full
    have placed := block.imp (congrArg (· ++ Pointer.escape name))
      (congrArg (· ++ Pointer.escape name))
    exact definitionName?_iff.mpr ⟨_, placed, Pointer.escape_ne_empty full,
      Pointer.escape_no_slash name, Pointer.unescape_escape name⟩

end Reference

/-- The message for a fault has the position of the node in it. -/
theorem Fault.message_position (fault : Fault) (position : Position) :
    ∃ before after, (fault.error position).message = before ++ position.text ++ after := by
  cases fault with
  | unresolvedReference => exact ⟨_, "", String.append_empty.symm⟩
  | cyclicReference => exact ⟨_, "", String.append_empty.symm⟩
  | unsupportedSchema => exact ⟨_, _, String.append_assoc⟩
  | unsupportedFormat => exact ⟨_, "", String.append_empty.symm⟩
  | notImplemented => exact ⟨_, _, rfl⟩
  | missingField => exact ⟨_, "", String.append_empty.symm⟩
  | fieldConflict => exact ⟨_, _, String.append_assoc⟩

/-- Escaping is exact. A segment is escaped tildes first and slashes then, without a slash in the result,
and is read as it was; the names that fragments give to definitions are the segments behind the keyword,
unescaped, and every name but the empty one is given by its escaped form; and where a compilation fails,
the pointer in the message is read as the path at which it stood. -/
theorem escaping_exact :
    (∀ segment : String,
      (Pointer.escape segment).toList =
        (segment.toList.flatMap Pointer.escapeTilde).flatMap Pointer.escapeSlash ∧
      Pointer.unescape (Pointer.escape segment) = segment ∧
      '/' ∉ (Pointer.escape segment).toList) ∧
    (∀ fragment name : String, Reference.definitionName? fragment = some name ↔
      ∃ segment : String,
        (fragment = "/definitions/" ++ segment ∨ fragment = "/$defs/" ++ segment) ∧
          segment ≠ "" ∧ '/' ∉ segment.toList ∧ Pointer.unescape segment = name) ∧
    (∀ name : String,
      (Reference.definitionName? ("/definitions/" ++ Pointer.escape name) = some name ↔ name ≠ "") ∧
      (Reference.definitionName? ("/$defs/" ++ Pointer.escape name) = some name ↔ name ≠ "")) ∧
    ∀ (α : Type) (fault : Fault) (state : State), ∃ error before pointer after,
      (Compile.fail fault state : Except CompileError α × State).1 = .error error ∧
        error.message = before ++ state.position.text ++ after ∧
        state.position.text =
          (state.position.document.map Location.text).getD "" ++ "#" ++ pointer ∧
        Pointer.segments pointer = state.position.path := by
  refine ⟨fun segment => ⟨?_, ?_, ?_⟩, fun fragment name => ?_, fun name => ⟨?_, ?_⟩, ?_⟩
  · exact Pointer.escape_eq_replaced segment
  · exact Pointer.unescape_escape segment
  · exact Pointer.escape_no_slash segment
  · exact Reference.definitionName?_iff
  · exact Reference.definitionName?_escape (.inl rfl)
  · exact Reference.definitionName?_escape (.inr rfl)
  · intro α fault state
    obtain ⟨before, after, message⟩ := fault.message_position state.position
    exact ⟨_, before, _, after, rfl, message, rfl, Pointer.segments_text state.position.path⟩

/-- A tilde that was escaped does not become part of a pair with the digit behind it. -/
example : Pointer.unescape (Pointer.escape "~1/~0") = "~1/~0" ∧
    Pointer.escape "~1/~0" = "~01~1~00" := by decide

end SchemaTypes
