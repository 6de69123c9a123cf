import SchemaBootstrap.Bson.Path

/-! # Paths put together with dots

A text is cut at a separator wherever that stands (`Text.pieces_append`), so a path may be cut
at any of its dots: what it leads to is what the part behind the dot leads to inside the document
at the end of the part before it (`Document.lookup_follows_dots`). No name on the way contains
a dot (`Document.not_mem_of_mem_segments`), and nothing but a document is entered.
-/

namespace SchemaBootstrap

namespace Text

variable {separator c : Char} {text : List Char}

theorem pieces_cons_self (separator : Char) (rest : List Char) :
    pieces separator (separator :: rest) = [] :: pieces separator rest := by
  rw [pieces, if_pos rfl]

theorem pieces_cons_of_ne (differ : c ≠ separator) (rest : List Char) :
    pieces separator (c :: rest) = (pieces separator rest).modifyHead (c :: ·) := by
  rw [pieces, if_neg differ]
  cases cut : pieces separator rest with
  | nil => exact absurd cut (pieces_ne_nil separator rest)
  | cons piece others => rfl

/-- A text is split at any separator into the pieces before it and those behind it. -/
theorem pieces_append (separator : Char) (text rest : List Char) :
    pieces separator (text ++ separator :: rest) =
      pieces separator text ++ pieces separator rest := by
  induction text with
  | nil => exact pieces_cons_self separator rest
  | cons c text ih =>
      rw [List.cons_append]
      by_cases same : c = separator
      · subst same
        rw [pieces_cons_self, pieces_cons_self, ih, List.cons_append]
      · rw [pieces_cons_of_ne same, pieces_cons_of_ne same, ih]
        cases cut : pieces separator text with
        | nil => exact absurd cut (pieces_ne_nil separator text)
        | cons piece others => rfl

theorem pieces_of_not_mem (plain : separator ∉ text) : pieces separator text = [text] := by
  induction text with
  | nil => rfl
  | cons c text ih =>
      obtain ⟨differ, plain⟩ := List.ne_and_not_mem_of_not_mem_cons plain
      rw [pieces_cons_of_ne (Ne.symm differ), ih plain]
      rfl

/-- No piece holds the separator. -/
theorem not_mem_of_mem_pieces {piece : List Char} (member : piece ∈ pieces separator text) :
    separator ∉ piece := by
  induction text generalizing piece with
  | nil =>
      rw [List.mem_singleton.mp member]
      exact List.not_mem_nil
  | cons c text ih =>
      by_cases same : c = separator
      · subst same
        rw [pieces_cons_self] at member
        obtain rfl | later := List.mem_cons.mp member
        · exact List.not_mem_nil
        · exact ih later
      · rw [pieces_cons_of_ne same] at member
        cases cut : pieces separator text with
        | nil => exact absurd cut (pieces_ne_nil separator text)
        | cons first others =>
            rw [cut] at member ih
            obtain rfl | later := List.mem_cons.mp member
            · exact List.not_mem_cons_of_ne_of_not_mem (Ne.symm same) (ih List.mem_cons_self)
            · exact ih (List.mem_cons_of_mem _ later)

end Text

namespace Document

/-- The segments of a path that is cut at a dot are those of its two parts. -/
theorem segments_append (path rest : String) :
    segments (path ++ "." ++ rest) = segments path ++ segments rest := by
  have cut : (path ++ "." ++ rest).toList = path.toList ++ '.' :: rest.toList := by
    simp only [String.toList_append, List.append_assoc]
    rfl
  rw [segments, cut, Text.pieces_append, List.map_append]
  rfl

theorem segments_of_not_mem {name : String} (plain : '.' ∉ name.toList) :
    segments name = [name] := by
  rw [segments, Text.pieces_of_not_mem plain, List.map_singleton, String.ofList_toList]

/-- Every path has a segment, also the empty one. -/
theorem segments_ne_nil (path : String) : segments path ≠ [] :=
  mt List.map_eq_nil_iff.mp (Text.pieces_ne_nil '.' path.toList)

/-- No segment holds a dot. -/
theorem not_mem_of_mem_segments {path name : String} (member : name ∈ segments path) :
    '.' ∉ name.toList := by
  obtain ⟨piece, inside, rfl⟩ := List.mem_map.mp member
  rw [String.toList_ofList]
  exact Text.not_mem_of_mem_pieces inside

/-- A chain of names leads where its second part leads from the end of its first part. -/
theorem descend_append (value : Bson) (names rest : List String) :
    descend value (names ++ rest) = (descend value names).bind (descend · rest) := by
  induction names generalizing value with
  | nil => rfl
  | cons name names ih =>
      cases value with
      | document fields =>
          rw [List.cons_append, descend, descend, Option.bind_assoc]
          exact Option.bind_congr fun inner _ => ih inner
      | _ => rfl

/-- What stands at a path that is cut at a dot is found by going on from what stands at its first
part. -/
theorem lookup_append (document : Document) (path rest : String) :
    document.lookup (path ++ "." ++ rest) =
      (document.lookup path).bind (descend · (segments rest)) := by
  rw [lookup, segments_append, descend_append, lookup]

/-- A path always has a name to follow, and outside of documents no name leads anywhere. -/
theorem descend_segments (value : Bson) (path : String) :
    descend value (segments path) =
      match value with
      | .document inner => lookup inner path
      | _ => none := by
  cases value with
  | document inner => rfl
  | _ =>
      cases cut : segments path with
      | nil => exact absurd cut (segments_ne_nil path)
      | cons name names => rfl

/-- Without a dot, a lookup is that of a field. -/
theorem lookup_of_not_mem (document : Document) {name : String} (plain : '.' ∉ name.toList) :
    document.lookup name = document.get? name := by
  rw [lookup, segments_of_not_mem plain]
  exact Option.bind_fun_some _

/-- Leaving out fields of other names does not change what a name leads to. -/
theorem get?_filter (keep : String → Bool) (document : Document) {name : String}
    (kept : keep name = true) :
    get? (document.filter fun field => keep field.1) name = document.get? name := by
  unfold get?
  induction document with
  | nil => rfl
  | cons field rest ih =>
      rw [List.filter_cons]
      split
      · rw [List.lookup_cons, List.lookup_cons, ih]
      · next dropped =>
          have differ : name ≠ field.1 := fun same => dropped (same ▸ kept)
          rw [List.lookup_cons, beq_false_of_ne differ, ih]

/-- Fields that have a dot in their name do not matter. -/
theorem lookup_filter (document : Document) (path : String) :
    lookup (document.filter fun field => !field.1.toList.contains '.') path =
      document.lookup path := by
  rw [lookup, lookup]
  cases cut : segments path with
  | nil => exact absurd cut (segments_ne_nil path)
  | cons name names =>
      have plain : '.' ∉ name.toList := not_mem_of_mem_segments (cut ▸ List.mem_cons_self)
      have kept : (!name.toList.contains '.') = true := by simpa using plain
      rw [descend, descend, get?_filter (fun name => !name.toList.contains '.') document kept]

/-- **Paths are put together with dots.** Wherever a path is cut at a dot, it leads to what the
part behind the dot leads to in the document at the end of the part before it, and nowhere if
there is no document; so it never leads through an array. A path without a dot leads to the field
of this name, and a field with a dot in its own name is as good as absent. -/
theorem lookup_follows_dots :
    (∀ (document : Document) (path rest : String),
      document.lookup (path ++ "." ++ rest) =
        match document.lookup path with
        | some (.document inner) => lookup inner rest
        | _ => none) ∧
    (∀ (document : Document) (path rest : String) (elements : List Bson),
      document.lookup path = some (.array elements) →
        document.lookup (path ++ "." ++ rest) = none) ∧
    (∀ (document : Document) (name : String), '.' ∉ name.toList →
      document.lookup name = document.get? name) ∧
    ∀ (document : Document) (path : String),
      lookup (document.filter fun field => !field.1.toList.contains '.') path =
        document.lookup path := by
  refine ⟨fun document path rest => ?_, fun document path rest elements found => ?_,
    fun document name plain => document.lookup_of_not_mem plain, lookup_filter⟩
  · rw [lookup_append]
    cases document.lookup path with
    | none => rfl
    | some value =>
        rw [Option.bind_some, descend_segments]
        cases value <;> rfl
  · rw [lookup_append, found, Option.bind_some, descend_segments]

/-- A document with a dotted name, an empty name on a path, and an array at its end. -/
def dottedDocument : Document :=
  [("a..b", .bool true),
    ("a", .document [("", .document [("b", .array [.document [("c", .int32 1)]])])])]

/-- An empty segment is followed like any other one, and no path leads into an array. -/
theorem lookup_follows_dots_of_dottedDocument :
    (dottedDocument.lookup "a..b" = some (.array [.document [("c", .int32 1)]]) ∧
      dottedDocument.lookup ("a..b" ++ "." ++ "c") = none) ∧
    '.' ∉ "a".toList ∧ dottedDocument.lookup "a" = dottedDocument.get? "a" := by
  have found : dottedDocument.lookup "a..b" = some (.array [.document [("c", .int32 1)]]) := rfl
  have plain : '.' ∉ "a".toList := by decide
  exact ⟨⟨found, lookup_follows_dots.2.1 dottedDocument "a..b" "c" _ found⟩, plain,
    lookup_follows_dots.2.2.1 dottedDocument "a" plain⟩

end Document

end SchemaBootstrap
