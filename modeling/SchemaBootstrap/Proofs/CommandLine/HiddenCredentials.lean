import Mathlib.Data.List.TakeWhile
import SchemaBootstrap.CommandLine.Redaction

/-! # Credentials do not show

A connection string is cut at its first `://` (`Redaction.splitScheme?_eq_some_iff`), and the
authority behind it at its last `@` (`Redaction.afterLastAt?_eq_some_iff`). A user may contain
any number of `@`, so where the user ends is not told by the text alone; but a user in front of
an `@` leaves no trace in what is shown, wherever it ends (`Redaction.redactChars_of_user`). A
text is shown as it is, or it has a user that reaches to the last `@` of the authority
(`Redaction.redactChars_cases`).
-/

namespace SchemaBootstrap

namespace Redaction

/-- What stands between the scheme of a connection string and its authority. -/
def separator : List Char :=
  [':', '/', '/']

/-- What stands before the first slash of the text behind the scheme. -/
def authority (rest : List Char) : List Char :=
  rest.takeWhile (· != '/')

/-! ## The first separator -/

section Scheme

variable {c : Char} {scheme text rest : List Char}

theorem splitScheme?_cons (later : ¬ separator <+: c :: text) :
    splitScheme? (c :: text) =
      (splitScheme? text).map fun found => (c :: found.1, found.2) := by
  rw [splitScheme?]
  rintro rest rfl rfl
  exact later ⟨rest, rfl⟩

/-- No end of a separator is the start of one, so a separator that stands behind a scheme does
not begin within it. -/
theorem not_prefix_append_separator (plain : ¬ separator <:+: c :: scheme)
    (rest : List Char) : ¬ separator <+: c :: (scheme ++ (separator ++ rest)) := by
  rintro ⟨after, same⟩
  match scheme with
  | [] => simp [separator] at same
  | [second] => simp [separator] at same
  | second :: third :: scheme =>
      obtain ⟨rfl, rfl, rfl, -⟩ : ':' = c ∧ '/' = second ∧ '/' = third ∧ _ := by
        simpa [separator] using same
      exact plain ⟨[], scheme, rfl⟩

/-- A text is cut at the separator behind a scheme that holds none. -/
theorem splitScheme?_append (plain : ¬ separator <:+: scheme) (rest : List Char) :
    splitScheme? (scheme ++ (separator ++ rest)) = some (scheme, rest) := by
  induction scheme with
  | nil => rfl
  | cons c scheme ih =>
      have shorter : ¬ separator <:+: scheme := fun inside => plain (List.infix_cons inside)
      have later := not_prefix_append_separator plain rest
      rw [List.cons_append, splitScheme?_cons later, ih shorter]
      rfl

/-- A text is cut at its first separator. -/
theorem splitScheme?_eq_some_iff :
    splitScheme? text = some (scheme, rest) ↔
      ¬ separator <:+: scheme ∧ text = scheme ++ (separator ++ rest) := by
  constructor
  · intro found
    induction text generalizing scheme with
    | nil => cases found
    | cons c text ih =>
        by_cases here : separator <+: c :: text
        · obtain ⟨after, same⟩ := here
          rw [← same] at found ⊢
          change some ([], after) = some (scheme, rest) at found
          cases found
          exact ⟨by simp [separator], rfl⟩
        · rw [splitScheme?_cons here] at found
          obtain ⟨parts, split, joined⟩ := Option.map_eq_some_iff.mp found
          obtain ⟨before, after⟩ := parts
          cases joined
          obtain ⟨plain, rfl⟩ := ih split
          refine ⟨fun inside => ?_, rfl⟩
          obtain start | inside := List.infix_cons_iff.mp inside
          · exact here (start.trans ⟨separator ++ after, rfl⟩)
          · exact plain inside
  · rintro ⟨plain, rfl⟩
    exact splitScheme?_append plain rest

/-- A text without a separator is not cut. -/
theorem splitScheme?_of_plain (plain : ¬ separator <:+: text) : splitScheme? text = none := by
  cases found : splitScheme? text with
  | none => rfl
  | some parts =>
      obtain ⟨-, rfl⟩ := splitScheme?_eq_some_iff.mp found
      exact absurd ⟨parts.1, parts.2, List.append_assoc _ _ _⟩ plain

end Scheme

/-! ## The last `@` of the authority -/

/-- Of the text in front of an `@`, nothing is found behind the last one. -/
theorem afterLastAt?_append (user rest : List Char) :
    afterLastAt? (user ++ '@' :: rest) = some ((afterLastAt? rest).getD rest) := by
  induction user with
  | nil =>
      rw [List.nil_append, afterLastAt?]
      cases afterLastAt? rest <;> rfl
  | cons c user ih => rw [List.cons_append, afterLastAt?, ih]

/-- Nothing stands behind the last `@` if and only if there is none. -/
theorem afterLastAt?_eq_none_iff {text : List Char} : afterLastAt? text = none ↔ '@' ∉ text := by
  constructor
  · intro missing member
    obtain ⟨user, rest, rfl⟩ := List.append_of_mem member
    rw [afterLastAt?_append] at missing
    cases missing
  · intro absent
    induction text with
    | nil => rfl
    | cons c text ih =>
        have differ : c ≠ '@' := fun same => absent (same ▸ List.mem_cons_self)
        have later : '@' ∉ text := fun member => absent (List.mem_cons_of_mem c member)
        rw [afterLastAt?, ih later]
        exact if_neg differ

/-- What stands behind the last `@` is the end of the text that holds no other one. -/
theorem afterLastAt?_eq_some_iff {text host : List Char} :
    afterLastAt? text = some host ↔ '@' ∉ host ∧ ∃ user, text = user ++ '@' :: host := by
  constructor
  · intro found
    induction text with
    | nil => cases found
    | cons c text ih =>
        rw [afterLastAt?] at found
        cases later : afterLastAt? text with
        | some host' =>
            rw [later] at found
            cases found
            obtain ⟨absent, user, rfl⟩ := ih later
            exact ⟨absent, c :: user, rfl⟩
        | none =>
            rw [later] at found
            obtain ⟨rfl, rfl⟩ : c = '@' ∧ text = host := by simpa using found
            exact ⟨afterLastAt?_eq_none_iff.mp later, [], rfl⟩
  · rintro ⟨absent, user, rfl⟩
    rw [afterLastAt?_append, afterLastAt?_eq_none_iff.mpr absent]
    rfl

/-! ## What is shown -/

section Shown

variable {scheme user rest uri : List Char}

/-- The first slash of a text is that of the part behind a user. -/
theorem cut_behind_user (within : '/' ∉ user) (rest : List Char) :
    authority (user ++ '@' :: rest) = user ++ '@' :: authority rest ∧
      (user ++ '@' :: rest).dropWhile (· != '/') = rest.dropWhile (· != '/') := by
  have unslashed : ∀ c ∈ user ++ ['@'], (c != '/') = true := by
    intro c member
    obtain member | member := List.mem_append.mp member
    · exact bne_iff_ne.mpr fun same => within (same ▸ member)
    · rw [List.mem_singleton.mp member]
      rfl
  have whole : user ++ '@' :: rest = (user ++ ['@']) ++ rest := by
    rw [List.append_assoc, List.singleton_append]
  constructor
  · rw [authority, whole, List.takeWhile_append_of_pos unslashed, List.append_assoc]
    rfl
  · rw [whole, List.dropWhile_append_of_pos unslashed]

/-- A text without a scheme is shown as it is. -/
theorem redactChars_of_plain (plain : ¬ separator <:+: uri) : redactChars uri = uri := by
  rw [redactChars, splitScheme?_of_plain plain]

/-- A text whose authority has no user is shown as it is. -/
theorem redactChars_of_bare (plain : ¬ separator <:+: scheme) (bare : '@' ∉ authority rest) :
    redactChars (scheme ++ (separator ++ rest)) = scheme ++ (separator ++ rest) := by
  have nobody : afterLastAt? (rest.takeWhile (· != '/')) = none :=
    afterLastAt?_eq_none_iff.mpr bare
  rw [redactChars, splitScheme?_append plain]
  dsimp only
  rw [nobody]

/-- A user is shown as three stars, and what is shown behind it does not depend on it. -/
theorem redactChars_of_user (plain : ¬ separator <:+: scheme) (within : '/' ∉ user)
    (rest : List Char) :
    redactChars (scheme ++ (separator ++ (user ++ '@' :: rest))) =
      scheme ++ (separator ++ (['*', '*', '*', '@'] ++
        ((afterLastAt? (authority rest)).getD (authority rest) ++ rest.dropWhile (· != '/')))) := by
  obtain ⟨front, back⟩ := cut_behind_user within rest
  rw [redactChars, splitScheme?_append plain]
  dsimp only
  rw [← authority, front, back, afterLastAt?_append]
  simp [separator]

/-- Of a user up to the last `@`, three stars are shown, and all the rest as it is. -/
theorem redactChars_of_last_user (plain : ¬ separator <:+: scheme) (within : '/' ∉ user)
    (last : '@' ∉ authority rest) :
    redactChars (scheme ++ (separator ++ (user ++ '@' :: rest))) =
      scheme ++ (separator ++ (['*', '*', '*', '@'] ++ rest)) := by
  rw [redactChars_of_user plain within, afterLastAt?_eq_none_iff.mpr last, Option.getD_none,
    authority, List.takeWhile_append_dropWhile]

/-- A text is shown as it is, or it has a user that reaches to the last `@` of the authority. -/
theorem redactChars_cases (uri : List Char) :
    redactChars uri = uri ∨
      ∃ scheme user rest, ¬ separator <:+: scheme ∧ '/' ∉ user ∧ '@' ∉ authority rest ∧
        uri = scheme ++ (separator ++ (user ++ '@' :: rest)) := by
  cases split : splitScheme? uri with
  | none => exact .inl (by rw [redactChars, split])
  | some parts =>
      obtain ⟨scheme, rest⟩ := parts
      obtain ⟨plain, rfl⟩ := splitScheme?_eq_some_iff.mp split
      cases found : afterLastAt? (authority rest) with
      | none => exact .inl (redactChars_of_bare plain (afterLastAt?_eq_none_iff.mp found))
      | some host =>
          obtain ⟨absent, user, named⟩ := afterLastAt?_eq_some_iff.mp found
          have within : '/' ∉ user := by
            intro member
            have inside : '/' ∈ authority rest := named ▸ List.mem_append_left _ member
            exact absurd (List.mem_takeWhile_imp inside) Bool.false_ne_true
          have whole : rest = user ++ '@' :: (host ++ rest.dropWhile (· != '/')) := by
            rw [← List.cons_append, ← List.append_assoc, ← named, authority,
              List.takeWhile_append_dropWhile]
          -- Behind the user, the authority is the host alone, which has no `@` any more.
          have last : authority (host ++ rest.dropWhile (· != '/')) = host := by
            have front := (cut_behind_user within (host ++ rest.dropWhile (· != '/'))).1
            rw [← whole, named] at front
            exact (List.cons.inj (List.append_cancel_left front)).2.symm
          refine .inr ⟨scheme, user, _, plain, within, ?_, congrArg _ (congrArg _ whole)⟩
          rw [last]
          exact absent

/-- What is shown has nothing more to hide. -/
theorem redactChars_redactChars (uri : List Char) :
    redactChars (redactChars uri) = redactChars uri := by
  obtain same | ⟨scheme, user, rest, plain, within, last, rfl⟩ := redactChars_cases uri
  · rw [same, same]
  · have stars : '/' ∉ ['*', '*', '*'] := by decide
    rw [redactChars_of_last_user plain within last]
    exact redactChars_of_last_user plain stars last

end Shown

end Redaction

theorem toList_of_user (scheme user rest : String) :
    (scheme ++ "://" ++ user ++ "@" ++ rest).toList =
      scheme.toList ++ (Redaction.separator ++ (user.toList ++ '@' :: rest.toList)) := by
  simp [Redaction.separator]

theorem toList_of_bare (scheme rest : String) :
    (scheme ++ "://" ++ rest).toList =
      scheme.toList ++ (Redaction.separator ++ rest.toList) := by
  simp [Redaction.separator]

theorem redactUri_eq_iff (uri shown : String) :
    redactUri uri = shown ↔ Redaction.redactChars uri.toList = shown.toList := by
  rw [redactUri, ← String.toList_inj, String.toList_ofList]

/-- **Credentials do not show.** What is shown of a connection string is the same for any two
users in front of an `@`; if this `@` is the last one of the authority, all the rest is shown.
What is shown of what is shown is the same once more, and a text without a user is shown as it
is. -/
theorem credentials_leave_no_trace :
    (∀ scheme user user' rest : String, ¬ Redaction.separator <:+: scheme.toList →
      '/' ∉ user.toList → '/' ∉ user'.toList →
      redactUri (scheme ++ "://" ++ user ++ "@" ++ rest) =
        redactUri (scheme ++ "://" ++ user' ++ "@" ++ rest)) ∧
    (∀ scheme user rest : String, ¬ Redaction.separator <:+: scheme.toList →
      '/' ∉ user.toList → '@' ∉ Redaction.authority rest.toList →
      redactUri (scheme ++ "://" ++ user ++ "@" ++ rest) =
        scheme ++ "://" ++ "***" ++ "@" ++ rest) ∧
    (∀ uri : String, redactUri (redactUri uri) = redactUri uri) ∧
    (∀ uri : String, ¬ Redaction.separator <:+: uri.toList → redactUri uri = uri) ∧
    (∀ scheme rest : String, ¬ Redaction.separator <:+: scheme.toList →
      '@' ∉ Redaction.authority rest.toList →
      redactUri (scheme ++ "://" ++ rest) = scheme ++ "://" ++ rest) := by
  refine ⟨fun scheme user user' rest plain within within' => ?_,
    fun scheme user rest plain within last => ?_, fun uri => ?_, fun uri plain => ?_,
    fun scheme rest plain bare => ?_⟩
  · rw [redactUri, redactUri, toList_of_user, toList_of_user,
      Redaction.redactChars_of_user plain within, Redaction.redactChars_of_user plain within']
  · rw [redactUri_eq_iff, toList_of_user, toList_of_user]
    exact Redaction.redactChars_of_last_user plain within last
  · rw [redactUri_eq_iff, redactUri, String.toList_ofList, Redaction.redactChars_redactChars]
  · exact (redactUri_eq_iff uri uri).mpr (Redaction.redactChars_of_plain plain)
  · rw [redactUri_eq_iff, toList_of_bare]
    exact Redaction.redactChars_of_bare plain bare

/-- Neither an `@` in a password nor one behind the slash is mistaken for the end of the
user. -/
theorem credentials_leave_no_trace_of_password_with_at :
    redactUri "mongodb://admin:p@ss:?w@one:1,two:2/?authSource=a@b" =
        "mongodb://***@one:1,two:2/?authSource=a@b" ∧
      redactUri "mongodb://guest@one:1,two:2/?authSource=a@b" =
        redactUri "mongodb://admin:p@ss:?w@one:1,two:2/?authSource=a@b" ∧
      redactUri "mongodb://one:1" = "mongodb://one:1" ∧ redactUri "one@two" = "one@two" := by
  have plain : ¬ Redaction.separator <:+: "mongodb".toList := by decide +kernel
  have last : '@' ∉ Redaction.authority "one:1,two:2/?authSource=a@b".toList := by
    decide +kernel
  obtain ⟨alike, shown, -, unsplit, bare⟩ := credentials_leave_no_trace
  have admin : "mongodb://admin:p@ss:?w@one:1,two:2/?authSource=a@b" =
      "mongodb" ++ "://" ++ "admin:p@ss:?w" ++ "@" ++ "one:1,two:2/?authSource=a@b" := by
    decide +kernel
  have guest : "mongodb://guest@one:1,two:2/?authSource=a@b" =
      "mongodb" ++ "://" ++ "guest" ++ "@" ++ "one:1,two:2/?authSource=a@b" := by
    decide +kernel
  have nobody : "mongodb://one:1" = "mongodb" ++ "://" ++ "one:1" := by decide +kernel
  rw [guest, admin, nobody]
  exact ⟨(shown _ _ _ plain (by decide +kernel) last).trans (by decide +kernel),
    alike _ _ _ _ plain (by decide +kernel) (by decide +kernel),
    bare _ _ plain (by decide +kernel), unsplit _ (by decide +kernel)⟩

end SchemaBootstrap
