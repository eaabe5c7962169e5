import Gazetteer.Hint.Catalog
import Gazetteer.Proofs.Json.Decoding

/-!
# Rendered tool calls

A template is filled in one pass, and a value is put into its hole as the inside of a JSON string.
So what a command renders in the dialect of tool calls is the text of one request
(`render_toolCall`), which reads back with the values as they were given, whatever they hold.
-/

namespace Gazetteer.Hint

open Json (escaped quotedString)

/-! ## Scanning a template -/

/-- Text without an opening brace holds no hole. -/
theorem piecesFrom_append {cs : List Char} (h : '\x7b' ∉ cs) (rest : List Char) :
    piecesFrom none (cs ++ rest) = cs.map .char ++ piecesFrom none rest := by
  induction cs with
  | nil => rfl
  | cons c cs ih =>
    obtain ⟨hc, hcs⟩ := not_or.1 (List.mem_cons.not.1 h)
    rw [List.cons_append, piecesFrom, if_neg (Ne.symm hc), ih hcs]
    rfl

/-- A brace in front of what is no name opens no hole. -/
theorem piecesFrom_brace {c : Char} (hname : isNameChar c = false) (hc : c ≠ '\x7b')
    (rest : List Char) : piecesFrom none ('\x7b' :: c :: rest) =
      .char '\x7b' :: .char c :: piecesFrom none rest := by
  simp [piecesFrom, hname, hc, unclosed]

theorem piecesFrom_name {cs : List Char} (h : ∀ c ∈ cs, isNameChar c = true)
    (read rest : List Char) :
    piecesFrom (some read) (cs ++ rest) = piecesFrom (some (cs.reverse ++ read)) rest := by
  induction cs generalizing read with
  | nil => rfl
  | cons c cs ih =>
    rw [List.cons_append, piecesFrom, if_pos (h c List.mem_cons_self),
      ih fun d hd => h d (List.mem_cons_of_mem _ hd)]
    simp

/-- A name between braces is a hole. -/
theorem piecesFrom_hole {name : List Char} (hne : name ≠ []) (h : ∀ c ∈ name, isNameChar c = true)
    (rest : List Char) : piecesFrom none ('\x7b' :: (name ++ '\x7d' :: rest)) =
      .hole name :: piecesFrom none rest := by
  have hclose : isNameChar '\x7d' = false := by decide
  rw [piecesFrom, if_pos rfl, piecesFrom_name h, List.append_nil, piecesFrom, hclose]
  simp [hne]

/-! ## Names -/

/-- A text that can be the name of a command or of a hole. -/
def IsName (s : String) : Prop := s ≠ "" ∧ ∀ c ∈ s.toList, isNameChar c = true

instance (s : String) : Decidable (IsName s) :=
  decidable_of_iff (s ≠ "" ∧ s.toList.all isNameChar = true) (and_congr_right' List.all_eq_true)

namespace IsName

variable {s : String}

theorem toList_ne_nil (h : IsName s) : s.toList ≠ [] := by
  rw [Ne, String.toList_eq_nil_iff]
  exact h.1

theorem notMem (h : IsName s) {c : Char} (hc : isNameChar c = false) : c ∉ s.toList := by
  intro hmem
  rw [h.2 c hmem] at hc
  cases hc

end IsName

/-- Characters that can stand in a name are written as they are inside a string. -/
theorem escapedChar_of_isNameChar {c : Char} (h : isNameChar c = true) :
    Json.escapedChar c = [c] := by
  have hne : ∀ d, isNameChar d = false → c ≠ d := by
    rintro d hd rfl
    rw [hd] at h
    cases h
  have hctl : ¬c.toNat < 0x20 := by
    have hall : ∀ n < 0x20, isNameChar (Char.ofNat n) = false := by decide
    intro hlt
    have hc := hall c.toNat hlt
    rw [Char.ofNat_toNat, h] at hc
    cases hc
  unfold Json.escapedChar
  split
  case h_8 => exact if_neg hctl
  all_goals exact absurd rfl (hne _ (by decide))

theorem escaped_append (cs ds : List Char) : escaped (cs ++ ds) = escaped cs ++ escaped ds :=
  List.flatMap_append

theorem IsName.escaped {s : String} (h : IsName s) : escaped s.toList = s.toList := by
  have hall : ∀ cs : List Char, (∀ c ∈ cs, isNameChar c = true) → Json.escaped cs = cs := by
    intro cs hcs
    induction cs with
    | nil => rfl
    | cons c cs ih =>
      rw [Json.escaped, List.flatMap_cons, escapedChar_of_isNameChar (hcs c List.mem_cons_self)]
      exact congrArg (c :: ·) (ih fun d hd => hcs d (List.mem_cons_of_mem _ hd))
  exact hall _ h.2

theorem IsName.quotedString {s : String} (h : IsName s) :
    quotedString s = '"' :: (s.toList ++ ['"']) := by
  rw [Json.quotedString, h.escaped]
  rfl

/-! ## Filling a template -/

/-- The characters of a filled template. -/
def filled (dialect : Dialect) (values : Values) (template : List Char) : List Char :=
  (pieces template).flatMap (Piece.fill dialect values)

/-- What a hole shows: its value, or else its name. -/
def shown (values : Values) (name : String) : String :=
  (values.lookup name).getD ("<" ++ name ++ ">")

section

variable {dialect : Dialect} {values : Values}

theorem filled_append {cs : List Char} (h : '\x7b' ∉ cs) (rest : List Char) :
    filled dialect values (cs ++ rest) = cs ++ filled dialect values rest := by
  have hchars : (cs.map Piece.char).flatMap (Piece.fill dialect values) = cs := by
    rw [List.flatMap_map]
    exact List.flatMap_singleton' cs
  rw [filled, pieces, piecesFrom_append h, List.flatMap_append, hchars]
  rfl

theorem filled_brace {c : Char} (hname : isNameChar c = false) (hc : c ≠ '\x7b')
    (rest : List Char) : filled dialect values ('\x7b' :: c :: rest) =
      '\x7b' :: c :: filled dialect values rest := by
  rw [filled, pieces, piecesFrom_brace hname hc]
  rfl

/-- The value in a hole is not looked at again, whatever holes it seems to have. -/
theorem filled_hole {name : String} (h : IsName name) (rest : List Char) :
    filled .toolCall values ('\x7b' :: (name.toList ++ '\x7d' :: rest)) =
      escaped (shown values name).toList ++ filled .toolCall values rest := by
  have hpiece : Piece.fill .toolCall values (.hole name.toList) =
      escaped (shown values name).toList := by
    rw [Piece.fill, String.ofList_toList, shown]
    cases values.lookup name with
    | some value => rfl
    | none =>
      show _ = escaped ("<" ++ name ++ ">").toList
      rw [String.toList_append, String.toList_append, escaped_append, escaped_append, h.escaped]
      rfl
  rw [filled, pieces, piecesFrom_hole h.toList_ne_nil h.2, List.flatMap_cons, hpiece]
  rfl

end

/-! ## Requests -/

namespace Command

/-- The payload of a command: a value under the name of its parameter, if it takes one. -/
def payload (c : Command) (value : String → String) : Json :=
  .object (c.parameter.toList.map fun p => (p, .string (value p)))

/-- The request for a command, with a value for its parameter. -/
def request (c : Command) (value : String → String) : Json :=
  .object [("action", .string c.name), ("payload", c.payload value)]

/-- The text of a request up to its payload. -/
def opening (c : Command) : List Char :=
  '\x7b' :: '"' :: ("action\":\"".toList ++ (c.name.toList ++ "\",\"payload\":".toList))

/-- The text of a payload, and of what follows it, with these fields. -/
def payloadText (fields : List Char) : List Char := '\x7b' :: (fields ++ ['\x7d', '\x7d'])

/-- The text of a field with this inside a string. -/
def fieldText (p : String) (content : List Char) : List Char :=
  '"' :: (p.toList ++ ("\":\"".toList ++ (content ++ ['"'])))

/-- Whether the name and the parameter of a command are written as they are in every place. -/
def IsPlain (c : Command) : Prop := IsName c.name ∧ ∀ p ∈ c.parameter, IsName p

instance (c : Command) : Decidable c.IsPlain :=
  inferInstanceAs (Decidable (IsName c.name ∧ ∀ p ∈ c.parameter, IsName p))

variable {c : Command} {value : String → String} {values : Values}

theorem toList_toolCall (c : Command) : c.toolCall.toList =
    opening c ++ payloadText (c.parameter.toList.flatMap fun p => fieldText p (hole p).toList) := by
  unfold toolCall opening payloadText
  cases c.parameter with
  | none => simp [String.toList_append]
  | some p => simp [String.toList_append, fieldText]

theorem compactText_request (h : c.IsPlain) : (c.request value).compactText = opening c ++
    payloadText (c.parameter.toList.flatMap fun p => fieldText p (escaped (value p).toList)) := by
  have haction : IsName "action" := by decide
  have hpayload : IsName "payload" := by decide
  unfold request payload opening payloadText
  cases hparameter : c.parameter with
  | none =>
    simp [Json.compactText, Json.compactFields, Json.scalarText, haction.quotedString,
      hpayload.quotedString, h.1.quotedString]
  | some p =>
    have hvalue : quotedString (value p) = '"' :: (escaped (value p).toList ++ ['"']) := rfl
    simp [Json.compactText, Json.compactFields, Json.scalarText, haction.quotedString,
      hpayload.quotedString, h.1.quotedString, (h.2 p hparameter).quotedString, hvalue, fieldText]

/-- The template of a command is the text of a request too, with the hole for a value. -/
theorem toolCall_eq_compact (h : c.IsPlain) : c.toolCall = (c.request hole).compact := by
  have hholes : (c.parameter.toList.flatMap fun p => fieldText p (hole p).toList) =
      c.parameter.toList.flatMap fun p => fieldText p (escaped (hole p).toList) := by
    cases hparameter : c.parameter with
    | none => rfl
    | some p =>
      have hescaped : escaped (hole p).toList = (hole p).toList := by
        simp only [hole, String.toList_append, escaped_append, (h.2 p hparameter).escaped]
        rfl
      simp only [Option.toList_some, List.flatMap_singleton, hescaped]
  rw [← String.ofList_toList (s := c.toolCall), toList_toolCall, hholes, ← compactText_request h]
  rfl

theorem filled_opening (h : IsName c.name) (rest : List Char) :
    filled .toolCall values (opening c ++ rest) = opening c ++ filled .toolCall values rest := by
  have hno : '\x7b' ∉ "action\":\"".toList ++ (c.name.toList ++ "\",\"payload\":".toList) := by
    simp [h.notMem (by decide : isNameChar '\x7b' = false)]
  rw [opening, List.cons_append, List.cons_append, filled_brace (by decide) (by decide),
    filled_append hno]
  rfl

theorem filled_payloadText_field {p : String} (h : IsName p) :
    filled .toolCall values (payloadText (fieldText p (hole p).toList)) =
      payloadText (fieldText p (escaped (shown values p).toList)) := by
  have hbefore : '\x7b' ∉ p.toList ++ "\":\"".toList := by
    simp [h.notMem (by decide : isNameChar '\x7b' = false)]
  have hafter : filled .toolCall values ['"', '\x7d', '\x7d'] = ['"', '\x7d', '\x7d'] := rfl
  have hsplit : ∀ content, payloadText (fieldText p content) =
      '\x7b' :: '"' :: ((p.toList ++ "\":\"".toList) ++ (content ++ ['"', '\x7d', '\x7d'])) := by
    simp [payloadText, fieldText]
  have hhole : ∀ rest, (hole p).toList ++ rest = '\x7b' :: (p.toList ++ '\x7d' :: rest) := by
    simp [hole, String.toList_append]
  rw [hsplit, hsplit, filled_brace (by decide) (by decide), filled_append hbefore, hhole,
    filled_hole h, hafter]

/-- A tool call is the text of one request, whatever its values hold. -/
theorem render_toolCall (h : c.IsPlain) :
    c.render .toolCall values = (c.request (shown values)).compact := by
  have hpayload : filled .toolCall values
      (payloadText (c.parameter.toList.flatMap fun p => fieldText p (hole p).toList)) =
      payloadText (c.parameter.toList.flatMap fun p =>
        fieldText p (escaped (shown values p).toList)) := by
    cases hparameter : c.parameter with
    | none => rfl
    | some p =>
      simp only [Option.toList_some, List.flatMap_singleton]
      exact filled_payloadText_field (h.2 p hparameter)
  show String.ofList (filled .toolCall values c.toolCall.toList) = _
  rw [toList_toolCall, filled_opening h.1, hpayload, Json.compact, compactText_request h]

/-! ## Requests read back -/

theorem isExact_request (c : Command) (value : String → String) : (c.request value).IsExact := by
  unfold request payload
  cases c.parameter <;> exact ⟨trivial, by constructor <;> trivial⟩

theorem canonical_payload (c : Command) (value : String → String) :
    (c.payload value).Canonical := by
  unfold payload
  cases c.parameter with
  | none => exact .object .nil .nil
  | some p => exact .object (List.pairwise_singleton ..) (.cons (.string _) .nil)

theorem depth_payload (c : Command) (value : String → String) : (c.payload value).depth = 1 := by
  unfold payload
  cases c.parameter <;> simp [Json.depth, Json.fieldsDepth]

theorem increasing_request (c : Command) (value : String → String) :
    Entries.Increasing [("action", Json.string c.name), ("payload", c.payload value)] := by
  have hnames : compare "action" "payload" = .lt := by decide
  simp [Entries.Increasing, hnames]

theorem canonical_request (c : Command) (value : String → String) :
    (c.request value).Canonical :=
  .object (increasing_request c value) (.cons (.string _) (.cons (canonical_payload c value) .nil))

theorem depth_request (c : Command) (value : String → String) : (c.request value).depth = 2 := by
  simp [request, Json.depth, Json.fieldsDepth, depth_payload]

theorem read?_compact_request (c : Command) (value : String → String) :
    Json.read? (c.request value).compact = some (c.request value) :=
  Json.read?_compact (isExact_request c value) (canonical_request c value)
    (by rw [depth_request]; decide)

end Command

theorem isPlain_of_mem_catalog {c : Command} (h : c ∈ catalog) : c.IsPlain := by
  have hall : ∀ c ∈ catalog, c.IsPlain := by decide
  exact hall c h

/-- Every tool call reads back as the request for its command. Its payload has the fields that the
template has, which is a request with holes, and under each stands the value that was given for its
hole, character by character, or the name of the hole if none was given. -/
theorem tool_calls_read_back : ∀ c ∈ catalog, ∀ values : Values,
    Json.read? (c.template .toolCall) = some (c.request Command.hole) ∧
      Json.read? (c.render .toolCall values) = some (c.request (shown values)) := by
  intro c hc values
  have hplain := isPlain_of_mem_catalog hc
  constructor
  · show Json.read? c.toolCall = _
    rw [Command.toolCall_eq_compact hplain, Command.read?_compact_request]
  · rw [Command.render_toolCall hplain, Command.read?_compact_request]

/-- A value that seems to close the string it stands in, or to be another hole, stays a value. -/
theorem hostile_query_reads_back :
    let query := "\"\x7d\x7d,\x7bfile\x7d\\\n\x01"
    ∃ c ∈ catalog, c.name = "find" ∧
      Json.read? (c.render .toolCall [("query", query), ("file", "a.ts")]) =
        some (.object [("action", .string "find"), ("payload", .object [("query", .string query)])])
    := by
  intro query
  let c : Command := ⟨"find", "Resolve a loose file reference to a path.", some "query"⟩
  have hc : c ∈ catalog := by decide
  have hread := (tool_calls_read_back c hc [("query", query), ("file", "a.ts")]).2
  exact ⟨c, hc, rfl, hread⟩

end Gazetteer.Hint
