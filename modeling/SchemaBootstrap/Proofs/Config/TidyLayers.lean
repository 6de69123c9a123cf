import SchemaBootstrap.Config.Environment
import SchemaBootstrap.Config.Loading
import SchemaBootstrap.Proofs.Config.Merging

/-! # Every layer is tidy

The layers that settings are loaded from have their names in order, whatever the files and
the variables hold: a mapping of a file and a group in a variable are built by putting one
member after the other (`Layer.tidy_ofFile?`, `Layer.tidy_ofVariables`).
-/

namespace SchemaBootstrap

open LayerValue (tidy_of_not_group tidy_group tidy_group_singleton)

namespace Layer

theorem tidy_tagged (tag : Option Yaml.TagText) {value : LayerValue} (tidy : value.Tidy) :
    (tagged tag value).Tidy := by
  unfold tagged
  split
  · exact tidy_group_singleton _ _
  · exact tidy

theorem tidy_ofScalar (scalar : Yaml.Scalar) : (ofScalar scalar).Tidy := by
  cases scalar <;> exact tidy_of_not_group rfl

/-- Whatever a scalar is read as, it is tidy. -/
theorem tidy_scalar? {tag : Option Yaml.TagText} {plain : Bool} {text : List Char}
    {value : LayerValue} (read : scalar? tag plain text = some value) : value.Tidy := by
  unfold scalar? at read
  split at read
  · obtain ⟨scalar, -, rfl⟩ := Option.map_eq_some_iff.mp read
    exact tidy_ofScalar scalar
  · cases read
    exact tidy_ofScalar _

/-- What is read with some fuel is tidy: values, and members added to tidy ones. -/
structure ReadsTidy (anchored : List (Nat × Yaml.Node)) (fuel : Nat) : Prop where
  value : ∀ {depth jumps node value left},
    value? anchored fuel depth jumps node = some (value, left) → value.Tidy
  members : ∀ {depth jumps members pairs members' left}, Tidy members →
    members? anchored fuel depth jumps members pairs = some (members', left) → Tidy members'

variable {anchored : List (Nat × Yaml.Node)} {fuel depth jumps left : Nat}

/-- A node is read tidily if its parts are. -/
theorem ReadsTidy.value_succ (reads : ReadsTidy anchored fuel) {node : Yaml.Node}
    {value : LayerValue}
    (read : value? anchored (fuel + 1) depth jumps node = some (value, left)) : value.Tidy := by
  obtain ⟨tag, plain, text⟩ | ⟨tag, elements⟩ | ⟨tag, pairs⟩ | ⟨anchor⟩ := node
  · simp only [value?, bind, Option.bind_eq_some_iff] at read
    obtain ⟨value', scalar, same⟩ := read
    cases same
    exact tidy_tagged tag (tidy_scalar? scalar)
  · rw [value?] at read
    split at read
    · cases read
    · simp only [bind, Option.bind_eq_some_iff] at read
      obtain ⟨⟨values, jumps'⟩, -, same⟩ := read
      cases same
      exact tidy_tagged tag (tidy_of_not_group rfl)
  · rw [value?] at read
    split at read
    · cases read
    · simp only [bind, Option.bind_eq_some_iff] at read
      obtain ⟨⟨members, jumps'⟩, inner, same⟩ := read
      cases same
      exact tidy_tagged tag (tidy_group (reads.members tidy_nil inner).sorted)
  · simp only [value?, bind, Option.bind_eq_some_iff] at read
    obtain ⟨jumps', -, node, -, read⟩ := read
    exact reads.value read

/-- The members of a mapping are put into a tidy group one by one. -/
theorem ReadsTidy.members_succ (reads : ReadsTidy anchored fuel) {members members' : Layer}
    {pairs : List (Yaml.Node × Yaml.Node)} (tidy : members.Tidy)
    (read : members? anchored (fuel + 1) depth jumps members pairs = some (members', left)) :
    members'.Tidy := by
  cases pairs with
  | nil =>
      rw [members?] at read
      · cases read
        exact tidy
      · exact Nat.succ_ne_zero fuel
  | cons pair rest =>
      obtain ⟨key, node⟩ := pair
      simp only [members?, bind, Option.bind_eq_some_iff] at read
      obtain ⟨⟨name, jumps'⟩, -, ⟨value, jumps''⟩, first, read⟩ := read
      exact reads.members (tidy.put name (reads.value first)) read

/-- Whatever the fuel, all that is read from nodes is tidy. -/
theorem readsTidy (anchored : List (Nat × Yaml.Node)) (fuel : Nat) :
    ReadsTidy anchored fuel := by
  induction fuel with
  | zero =>
      refine ⟨fun {depth jumps node value left} read => ?_,
        fun {depth jumps members pairs members' left} tidy read => ?_⟩
      · rw [value?] at read
        cases read
      · rw [members?] at read
        cases read
  | succ fuel ih => exact ⟨ih.value_succ, ih.members_succ⟩

/-- The layer of a document is tidy. -/
theorem tidy_ofDocument? {document : Yaml.Document} {layer : Layer}
    (read : ofDocument? document = some layer) : layer.Tidy := by
  unfold ofDocument? at read
  dsimp only at read
  split at read
  · obtain ⟨⟨members, left⟩, inner, same⟩ := Option.map_eq_some_iff.mp read
    cases same
    exact (readsTidy _ _).members tidy_nil inner
  · cases read
    exact tidy_nil
  · cases read

/-- The layer of a file is tidy. -/
theorem tidy_ofFile? {text : String} {layer : Layer} (read : ofFile? text = some layer) :
    layer.Tidy := by
  unfold ofFile? at read
  obtain ⟨tokens, -, read⟩ := Option.bind_eq_some_iff.mp read
  obtain ⟨document?, -, read⟩ := Option.bind_eq_some_iff.mp read
  cases document? with
  | none =>
      cases read
      exact tidy_nil
  | some document => exact tidy_ofDocument? read

end Layer

namespace VariableValue

theorem tidy_unsigned? {number : Option Nat} {value : LayerValue}
    (read : integer?.unsigned? number = some value) : value.Tidy := by
  obtain ⟨number, -, read⟩ := Option.bind_eq_some_iff.mp read
  split at read
  · cases read
    exact tidy_of_not_group rfl
  · cases read

theorem tidy_integer? {text : List Char} {value : LayerValue}
    (read : integer? text = some value) : value.Tidy := by
  unfold integer? at read
  dsimp only at read
  split at read
  · obtain ⟨number, -, read⟩ := Option.bind_eq_some_iff.mp read
    split at read
    · cases read
      exact tidy_of_not_group rfl
    · cases read
  · exact tidy_unsigned? read
  · exact tidy_unsigned? read

theorem tidy_ofWord (text : List Char) : (ofWord text).Tidy := by
  have other : ((integer? (Text.trim text)).getD
      (.text (String.ofList (Text.trim text)))).Tidy := by
    cases read : integer? (Text.trim text) with
    | none => exact tidy_of_not_group rfl
    | some value => exact tidy_integer? read
  unfold ofWord
  dsimp only
  split
  · split
    · exact tidy_of_not_group rfl
    · exact other
  · exact other

/-- What is read with some fuel is tidy: values, and members added to tidy ones. -/
structure ReadsTidy (fuel : Nat) : Prop where
  value : ∀ {text value rest}, read? fuel text = some (value, rest) → value.Tidy
  members : ∀ {members text members' rest}, Layer.Tidy members →
    readMembers? fuel members text = some (members', rest) → Layer.Tidy members'

variable {fuel : Nat} {text rest : List Char}

/-- A value in the text of a variable is read tidily if its parts are. -/
theorem ReadsTidy.value_succ (reads : ReadsTidy fuel) {value : LayerValue}
    (read : read? (fuel + 1) text = some (value, rest)) : value.Tidy := by
  simp only [read?, bind] at read
  split at read
  · cases read
    exact tidy_of_not_group rfl
  · cases read
    exact tidy_of_not_group rfl
  · split at read
    · simp only [Option.bind_eq_some_iff, Option.map_eq_some_iff] at read
      obtain ⟨-, ⟨⟨members, rest⟩, inner, rfl⟩, same⟩ := read
      cases same
      exact tidy_group (reads.members Layer.tidy_nil inner).sorted
    · simp only [Option.bind_eq_some_iff, Option.map_eq_some_iff] at read
      obtain ⟨-, ⟨elements, -, rfl⟩, same⟩ := read
      cases same
      exact tidy_of_not_group rfl
    · simp only [Option.bind_eq_some_iff, Option.map_eq_some_iff] at read
      obtain ⟨-, ⟨quoted, -, rfl⟩, same⟩ := read
      cases same
      exact tidy_of_not_group rfl
    · cases read
      exact tidy_of_not_group rfl
    · cases read
    · cases read
      exact tidy_ofWord _

/-- The members in the text of a variable are put into a tidy group one by one. -/
theorem ReadsTidy.members_succ (reads : ReadsTidy fuel) {members members' : Layer}
    (tidy : members.Tidy)
    (read : readMembers? (fuel + 1) members text = some (members', rest)) : members'.Tidy := by
  rw [readMembers?.eq_def] at read
  dsimp only at read
  split at read
  · cases read
    exact tidy
  · simp only [bind, Option.bind_eq_some_iff] at read
    obtain ⟨⟨name, rest⟩, -, rest, -, ⟨value, rest⟩, first, read⟩ := read
    have tidy' := tidy.put name (reads.value first)
    split at read
    · exact reads.members tidy' read
    · cases read
      exact tidy'
    · cases read

/-- Whatever the fuel, all that is read from the text of a variable is tidy. -/
theorem readsTidy (fuel : Nat) : ReadsTidy fuel := by
  induction fuel with
  | zero =>
      refine ⟨fun {text value rest} read => ?_, fun {members text members' rest} tidy read => ?_⟩
      · rw [read?] at read
        cases read
      · rw [readMembers?] at read
        cases read
  | succ fuel ih => exact ⟨ih.value_succ, ih.members_succ⟩

/-- The value of a variable is tidy. -/
theorem tidy_ofText (text : String) : (ofText text).Tidy := by
  unfold ofText
  split
  · next read => exact (readsTidy _).value read
  · exact tidy_of_not_group rfl

end VariableValue

/-- A tidy value stays tidy below a path. -/
theorem Variable.tidy_nested {value : LayerValue} (tidy : value.Tidy) (path : List String) :
    (nested value path).Tidy := by
  cases path with
  | nil => exact tidy
  | cons name rest => exact tidy_group_singleton _ _

/-- The layer of a variable is tidy. -/
theorem Variable.tidy_layer (source : Variable) : source.layer.Tidy := by
  unfold layer
  split
  · exact Layer.tidy_singleton _ (tidy_nested (VariableValue.tidy_ofText _) _)
  · exact Layer.tidy_nil

/-- The layer of all variables is tidy. -/
theorem Layer.tidy_ofVariables (environment : List Variable) : (ofVariables environment).Tidy := by
  refine tidy_merged fun layer member => ?_
  obtain ⟨source, -, rfl⟩ := List.mem_map.mp member
  exact source.tidy_layer

theorem Layer.tidy_groupOf (members : List (String × LayerValue)) : (groupOf members).Tidy := by
  refine tidy_group ?_
  have step : ∀ sorted : List (String × LayerValue), Catalog.Sorted sorted →
      Catalog.Sorted (members.foldl
        (fun sorted member => Catalog.put member.1 member.2 sorted) sorted) := by
    induction members with
    | nil => exact fun _ sorted => sorted
    | cons member rest ih => exact fun _ sorted => ih _ (Catalog.sorted_put _ _ sorted)
  exact step [] .nil

namespace Settings

/-- The layer of settings is tidy. -/
theorem tidy_layer (settings : Settings) : settings.layer.Tidy where
  sorted := by
    have names : (settings.layer.map Prod.fst).Pairwise
        fun first second => Text.precedes first second = true := by
      change ["logging", "mongodb", "retry"].Pairwise _
      decide
    exact List.pairwise_map.mp names
  values := by
    intro name value found
    simp only [layer, Catalog.lookup_cons, List.lookup_nil] at found
    split at found
    · cases found
      exact Layer.tidy_groupOf _
    · split at found
      · cases found
        exact Layer.tidy_groupOf _
      · split at found <;> cases found
        exact Layer.tidy_groupOf _

/-- What a file is read as is tidy. -/
theorem tidy_fileLayer? {files : FileView} {path : String} {layer : Layer}
    (read : fileLayer? files path = some layer) : layer.Tidy := by
  unfold fileLayer? at read
  split at read
  · exact Layer.tidy_ofFile? read
  · cases read
    exact Layer.tidy_nil

/-- All layers of files are tidy. -/
theorem tidy_fileLayers? {files : FileView} {paths : List String} {layers : List SourcedLayer}
    (read : fileLayers? files paths = some layers) : ∀ sourced ∈ layers, sourced.layer.Tidy := by
  induction paths generalizing layers with
  | nil =>
      cases read
      exact List.forall_mem_nil _
  | cons path rest ih =>
      unfold fileLayers? at read
      simp only [List.mapM_cons, bind, Option.bind_eq_some_iff, Option.map_eq_some_iff] at read
      obtain ⟨-, ⟨layer, first, rfl⟩, others, later, same⟩ := read
      cases same
      exact List.forall_mem_cons.mpr ⟨tidy_fileLayer? first, ih later⟩

end Settings

end SchemaBootstrap
