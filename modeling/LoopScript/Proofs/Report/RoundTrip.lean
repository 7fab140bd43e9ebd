import LoopScript.Proofs.Report.Escapes
import LoopScript.Report

/-! The text of a JSON value says that value, in one line, whichever escapes are used. -/
namespace LoopScript

namespace Json

mutual

def document : Json → Document
  | string text => .string text
  | bool value => .bool value
  | array items => .array (itemDocuments items)
  | object fields => .object (fieldDocuments fields)

def itemDocuments : List Json → List Document
  | [] => []
  | item :: items => item.document :: itemDocuments items

def fieldDocuments : List (String × Json) → List (String × Document)
  | [] => []
  | (key, value) :: fields => (key, value.document) :: fieldDocuments fields

end

theorem itemDocuments_eq_map (items : List Json) : itemDocuments items = items.map document := by
  induction items with
  | nil => rfl
  | cons item items ih => rw [itemDocuments, ih, List.map_cons]

section

variable (escape : Char → List Char)

theorem itemChars_cons (item : Json) {items : List Json} (h : items ≠ []) :
    itemChars escape (item :: items) =
      item.chars escape ++ ',' :: itemChars escape items := by
  obtain ⟨next, items, rfl⟩ := List.exists_cons_of_ne_nil h
  rfl

theorem fieldChars_cons (key : String) (value : Json) {fields : List (String × Json)}
    (h : fields ≠ []) : fieldChars escape ((key, value) :: fields) =
      quote escape key ++ ':' :: value.chars escape ++ ',' :: fieldChars escape fields := by
  obtain ⟨next, fields, rfl⟩ := List.exists_cons_of_ne_nil h
  rfl

theorem fieldChars_eq_cons (field : String × Json) (fields : List (String × Json)) :
    ∃ rest, fieldChars escape (field :: fields) = '"' :: rest := by
  cases fields with
  | nil => exact ⟨_, rfl⟩
  | cons => exact ⟨_, rfl⟩

end

section

variable (escapes : Escapes)

/-! ### Strings -/

namespace Decoder

namespace Progress

variable {due : Due} {stack : List Frame} {front : List Char}

theorem feed_writes (due : Due) (stack : List Frame) (front text : List Char) :
    feed ⟨due, stack, .quoted front .plain⟩ (text.flatMap escapes.write) =
      some ⟨due, stack, .quoted (front ++ text) .plain⟩ := by
  induction text generalizing front with
  | nil => rw [List.flatMap_nil, feed_nil, List.append_nil]
  | cons c text ih =>
    rw [List.flatMap_cons, feed_append_of_eq (escapes.feed_write due stack front c), ih,
      List.append_assoc, List.singleton_append]

theorem feed_quote (h : Progress.enter ⟨due, stack, .none⟩ '"' = ⟨due, stack, .none⟩)
    (text : String) :
    feed ⟨due, stack, .none⟩ (quote escapes.write text) =
      advance ⟨due, stack, .none⟩ (.text text) := by
  have hopen : step ⟨due, stack, .none⟩ '"' = some ⟨due, stack, .quoted [] .plain⟩ := by
    change start (enter ⟨due, stack, .none⟩ '"') '"' = _
    rw [h]
    rfl
  have hclose : step ⟨due, stack, .quoted text.toList .plain⟩ '"' =
      advance ⟨due, stack, .none⟩ (.text text) := by
    change advance ⟨due, stack, .none⟩ (.text (String.ofList text.toList)) = _
    rw [String.ofList_toList]
  rw [quote, List.cons_append, feed_cons, hopen, Option.bind_some,
    feed_append_of_eq (feed_writes escapes due stack [] text.toList), List.nil_append,
    feed_singleton, hclose]

/-! ### Values -/

/-- A value begins with a character that neither is a blank nor ends an array. -/
def Opens (text : List Char) : Prop :=
  ∃ c rest, text = c :: rest ∧ isSpace c = false ∧ c ≠ ']'

theorem Opens.append {text : List Char} (h : Opens text) (text' : List Char) :
    Opens (text ++ text') := by
  obtain ⟨c, rest, rfl, hc⟩ := h
  exact ⟨c, rest ++ text', rfl, hc⟩

theorem opens_chars (escape : Char → List Char) (value : Json) : Opens (value.chars escape) := by
  cases value with
  | string text => exact ⟨'"', _, rfl, by decide⟩
  | bool value => cases value with
    | false => exact ⟨'f', _, rfl, by decide⟩
    | true => exact ⟨'t', _, rfl, by decide⟩
  | array items => exact ⟨'[', _, rfl, by decide⟩
  | object fields => exact ⟨'\x7b', _, rfl, by decide⟩

theorem opens_itemChars (escape : Char → List Char) (item : Json) (items : List Json) :
    Opens (itemChars escape (item :: items) ++ [']']) := by
  cases items with
  | nil => exact (opens_chars escape item).append _
  | cons => exact ((opens_chars escape item).append _).append _

/-- In front of an array's first item the reader is as far as in front of any other. -/
theorem feed_firstItem {text : List Char} (h : Opens text) :
    feed ⟨.firstItem, stack, .none⟩ text = feed ⟨.value, .items [] :: stack, .none⟩ text := by
  obtain ⟨c, rest, rfl, hspace, hbracket⟩ := h
  have hstep : step ⟨.firstItem, stack, .none⟩ c = step ⟨.value, .items [] :: stack, .none⟩ c := by
    simp [step, next, enter, hspace, hbracket]
  rw [feed_cons, feed_cons, hstep]

theorem feed_firstKey (text : List Char) :
    feed ⟨.firstKey, stack, .none⟩ ('"' :: text) = feed ⟨.key [], stack, .none⟩ ('"' :: text) := rfl

theorem feed_key (stack : List Frame) (front : List (String × Document)) (key : String)
    (text : List Char) :
    feed ⟨.key front, stack, .none⟩ (quote escapes.write key ++ ':' :: text) =
      feed ⟨.value, .fields front key :: stack, .none⟩ text := by
  have hkey : feed ⟨.key front, stack, .none⟩ (quote escapes.write key) =
      some ⟨.colon front key, stack, .none⟩ := feed_quote escapes rfl key
  rw [feed_append_of_eq hkey]
  rfl

mutual

/-- The text of a value is read as that value, wherever a value is due. -/
theorem feed_chars (stack : List Frame) : (value : Json) →
    feed ⟨.value, stack, .none⟩ (value.chars escapes.write) =
      some ⟨.behind value.document, stack, .none⟩
  | .string text => feed_quote escapes rfl text
  | .bool true => rfl
  | .bool false => rfl
  | .array [] => rfl
  | .array (item :: items) => by
    have hitems := feed_itemChars stack [] (item :: items) (List.cons_ne_nil item items)
    rw [← feed_firstItem (opens_itemChars escapes.write item items)] at hitems
    exact hitems
  | .object [] => rfl
  | .object (field :: fields) => by
    have hfields := feed_fieldChars stack [] (field :: fields) (List.cons_ne_nil field fields)
    obtain ⟨rest, hrest⟩ := fieldChars_eq_cons escapes.write field fields
    rw [hrest, List.cons_append, ← feed_firstKey, ← List.cons_append, ← hrest] at hfields
    exact hfields

theorem feed_itemChars (stack : List Frame) (front : List Document) : (items : List Json) →
    items ≠ [] →
    feed ⟨.value, .items front :: stack, .none⟩ (itemChars escapes.write items ++ [']']) =
      some ⟨.behind (.array (front ++ itemDocuments items)), stack, .none⟩
  | [], h => absurd rfl h
  | [item], _ => by
    rw [itemChars, feed_append_of_eq (feed_chars _ item)]
    rfl
  | item :: next :: items, _ => by
    have hitems := feed_itemChars stack (front ++ [item.document]) (next :: items)
      (List.cons_ne_nil next items)
    rw [List.append_assoc] at hitems
    rw [itemChars_cons escapes.write item (List.cons_ne_nil next items), List.append_assoc,
      feed_append_of_eq (feed_chars _ item)]
    exact hitems

theorem feed_fieldChars (stack : List Frame) (front : List (String × Document)) :
    (fields : List (String × Json)) → fields ≠ [] →
    feed ⟨.key front, stack, .none⟩ (fieldChars escapes.write fields ++ ['\x7d']) =
      some ⟨.behind (.object (front ++ fieldDocuments fields)), stack, .none⟩
  | [], h => absurd rfl h
  | [(key, value)], _ => by
    rw [fieldChars, List.append_assoc, List.cons_append, feed_key escapes,
      feed_append_of_eq (feed_chars _ value)]
    rfl
  | (key, value) :: next :: fields, _ => by
    have hfields := feed_fieldChars stack (front ++ [(key, value.document)]) (next :: fields)
      (List.cons_ne_nil next fields)
    rw [List.append_assoc] at hfields
    rw [fieldChars_cons escapes.write key value (List.cons_ne_nil next fields)]
    simp only [List.append_assoc, List.cons_append]
    rw [feed_key escapes, feed_append_of_eq (feed_chars _ value)]
    exact hfields

end

theorem feed_spaces {p : Progress} (h : p.part = .none) {text : List Char}
    (hspace : ∀ c ∈ text, isSpace c) : p.feed text = some p := by
  induction text with
  | nil => rfl
  | cons c text ih =>
    have hc : p.step c = some p := by
      simp [step, h, next, hspace c List.mem_cons_self]
    rw [feed_cons, hc, Option.bind_some]
    exact ih fun d hd => hspace d (List.mem_cons_of_mem c hd)

end Progress

end Decoder

/-- Decoding takes the text of a value back to that value, whatever blanks stand behind it. -/
theorem decode_chars_append (value : Json) {text : List Char}
    (h : ∀ c ∈ text, Decoder.isSpace c) :
    decode (String.ofList (value.chars escapes.write ++ text)) = some value.document := by
  rw [decode, String.toList_ofList,
    Decoder.Progress.feed_append_of_eq (Decoder.Progress.feed_chars escapes [] value),
    Decoder.Progress.feed_spaces rfl h]
  rfl

/-! ### Lines -/

theorem Printable.between {text : List Char} (h : Printable text) {left right : Char}
    (hleft : 0x20 ≤ left.toNat) (hright : 0x20 ≤ right.toNat) :
    Printable (left :: text ++ [right]) := by
  rw [List.cons_append, printable_cons, printable_append]
  exact ⟨hleft, h, List.forall_mem_singleton.mpr hright⟩

theorem Printable.newline_notMem {text : List Char} (h : Printable text) : '\n' ∉ text := by
  intro hmem
  have hnewline : 0x20 ≤ '\n'.toNat := h '\n' hmem
  exact absurd hnewline (by decide)

theorem printable_quote (text : String) : Printable (quote escapes.write text) := by
  have htext : Printable (text.toList.flatMap escapes.write) := by
    intro e he
    obtain ⟨c, -, hc⟩ := List.mem_flatMap.mp he
    exact escapes.printable_write c e hc
  exact htext.between (by decide) (by decide)

mutual

theorem printable_chars : (value : Json) → Printable (value.chars escapes.write)
  | .string text => printable_quote escapes text
  | .bool true => by simp [chars, Printable]
  | .bool false => by simp [chars, Printable]
  | .array items => (printable_itemChars items).between (by decide) (by decide)
  | .object fields => (printable_fieldChars fields).between (by decide) (by decide)

theorem printable_itemChars : (items : List Json) → Printable (itemChars escapes.write items)
  | [] => List.forall_mem_nil _
  | [item] => printable_chars item
  | item :: next :: items => by
    have hitem := printable_chars item
    have hitems := printable_itemChars (next :: items)
    rw [itemChars_cons escapes.write item (List.cons_ne_nil next items), printable_append,
      printable_cons]
    exact ⟨hitem, by decide, hitems⟩

theorem printable_fieldChars : (fields : List (String × Json)) →
    Printable (fieldChars escapes.write fields)
  | [] => List.forall_mem_nil _
  | [(key, value)] => by
    rw [fieldChars, printable_append, printable_cons]
    exact ⟨printable_quote escapes key, by decide, printable_chars value⟩
  | (key, value) :: next :: fields => by
    have hfields := printable_fieldChars (next :: fields)
    rw [fieldChars_cons escapes.write key value (List.cons_ne_nil next fields)]
    simp only [printable_append, printable_cons]
    exact ⟨⟨printable_quote escapes key, by decide, printable_chars value⟩, by decide, hfields⟩

end

/-- A text with a line break at its end and nowhere else, which says a document. -/
structure IsLineOf (d : Document) (text : String) : Prop where
  ends : ∃ front : String, text = front ++ "\n" ∧ '\n' ∉ front.toList
  decodes : decode text = some d

theorem isLineOf_render (value : Json) :
    IsLineOf value.document (value.render escapes.write ++ "\n") where
  ends := by
    refine ⟨value.render escapes.write, rfl, ?_⟩
    rw [render, String.toList_ofList]
    exact (printable_chars escapes value).newline_notMem
  decodes := by
    have htext : value.render escapes.write ++ "\n" =
        String.ofList (value.chars escapes.write ++ ['\n']) := by
      rw [String.ofList_append]
      rfl
    rw [htext]
    exact decode_chars_append escapes value (by decide)

end

end Json

namespace Report

open Json (Document IsLineOf)

/-- The tokens of an accepted text. -/
def tokensField : Except Failure (List Token) → List (String × Document)
  | .ok tokens =>
    [("tokens", .array (tokens.map fun token =>
      .object [("kind", .string token.kind.name), ("lexeme", .string token.lexeme)]))]
  | .error _ => []

/-- What is wrong with a refused text. -/
def errorField : Except Failure (List Token) → List (String × Document)
  | .ok _ => []
  | .error failure => [("error", .string failure.message)]

theorem document_tokens (tokens : List Token) :
    (Json.array (tokens.map Token.toJson)).document =
      .array (tokens.map fun token =>
        .object [("kind", .string token.kind.name), ("lexeme", .string token.lexeme)]) := by
  rw [Json.document, Json.itemDocuments_eq_map, List.map_map]
  rfl

def listed (file : String) (result : Except Failure (List Token)) : Document :=
  .object (("file", .string file) :: tokensField result ++
    ("ok", .bool result.isOk) :: errorField result)

def checked (file : String) (rule : Rule) (result : Except Failure (List Token)) : Document :=
  .object (("file", .string file) :: ("rule", .string rule.name) ::
    ("ok", .bool result.isOk) :: errorField result)

section

variable (escapes : Json.Escapes) (file : String) (rule : Rule)
  (result : Except Failure (List Token))

theorem Record.isLineOf_line (r : Record) :
    IsLineOf (Json.object r.fields).document (r.line escapes.write) :=
  Json.isLineOf_render escapes (.object r.fields)

theorem isLineOf_listingBy :
    IsLineOf (listed file result) (listingBy escapes.write file result .json) := by
  cases result with
  | ok tokens =>
    rw [listed, tokensField, ← document_tokens]
    exact Record.isLineOf_line escapes ⟨file, none, some tokens, true, none⟩
  | error failure =>
    exact Record.isLineOf_line escapes ⟨file, none, none, false, some failure.message⟩

theorem isLineOf_verdictBy :
    IsLineOf (checked file rule result) (verdictBy escapes.write file rule result .json) := by
  cases result with
  | ok tokens => exact Record.isLineOf_line escapes ⟨file, some rule, none, true, none⟩
  | error failure =>
    exact Record.isLineOf_line escapes ⟨file, some rule, none, false, some failure.message⟩

/-- A report for machines is one line of JSON, and to decode it gives back all that was reported.
This is so whichever escapes are used. -/
theorem isLineOf_json :
    (IsLineOf (listed file result) (listing file result .json) ∧
      IsLineOf (checked file rule result) (verdict file rule result .json)) ∧
    ∀ escapes : Json.Escapes,
      IsLineOf (listed file result) (listingBy escapes.write file result .json) ∧
        IsLineOf (checked file rule result) (verdictBy escapes.write file rule result .json) := by
  refine ⟨⟨isLineOf_listingBy .standard file result, isLineOf_verdictBy .standard file rule result⟩,
    fun escapes => ?_⟩
  exact ⟨isLineOf_listingBy escapes file result, isLineOf_verdictBy escapes file rule result⟩

end

end Report

end LoopScript
