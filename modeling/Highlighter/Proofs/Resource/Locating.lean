import Highlighter.Registry

/-!
# Where profiles are looked up

The profile of a name is looked up under a base location. The name becomes part of a file name,
which is then read as a path, so a slash in the name begins a new component, and a component may be
`..`. This file says which names lead out of the base in this way.

## Main definitions

* `Path.LiesIn` — a path that goes on from a base and never back
* `Climbs` — a name that has `..` for a component of its file name

## Main results

* `Path.ofText_text` — a path is read from its text as it is
* `mem_splitOn_slash_iff` — the pieces of a text are what stands between its slashes
* `Registry.located_in_base_iff` — where the profile of a name is looked up
-/

namespace Highlighter.Resource

/-! ## The pieces of a text -/

/-- The pieces of a text are what stands between its slashes. -/
theorem mem_splitOn_slash_iff {text piece : List Char} :
    piece ∈ text.splitOn '/' ↔ '/' ∉ piece ∧ ∃ before after, text = before ++ (piece ++ after) ∧
      (before = [] ∨ ['/'] <:+ before) ∧ (after = [] ∨ ['/'] <+: after) := by
  constructor
  · intro h
    induction hlength : text.length using Nat.strongRecOn generalizing text with
    | _ count ih =>
      by_cases hslash : '/' ∈ text
      · -- the first piece goes up to the first slash, and the others are those of the rest
        obtain ⟨first, rest, rfl, hfirst⟩ := List.eq_append_cons_of_mem hslash
        rw [List.splitOn_append_cons_self_of_not_mem hfirst, List.mem_cons] at h
        rcases h with rfl | h
        · exact ⟨hfirst, [], '/' :: rest, rfl, .inl rfl, .inr ⟨rest, rfl⟩⟩
        · have hlt : rest.length < count := by
            rw [← hlength, List.length_append, List.length_cons]
            omega
          obtain ⟨hpiece, before, after, rfl, hbefore, hafter⟩ := ih _ hlt h rfl
          refine ⟨hpiece, first ++ '/' :: before, after, by simp, .inr ?_, hafter⟩
          rcases hbefore with rfl | ⟨others, rfl⟩
          · exact ⟨first, rfl⟩
          · exact ⟨first ++ '/' :: others, by simp⟩
      · rw [List.splitOn_eq_singleton hslash, List.mem_singleton] at h
        obtain rfl := h
        exact ⟨hslash, [], [], by simp, .inl rfl, .inl rfl⟩
  · rintro ⟨hpiece, before, after, rfl, hbefore, hafter⟩
    have hfirst : piece ∈ (piece ++ after).splitOn '/' := by
      rcases hafter with rfl | ⟨rest, rfl⟩
      · simp [List.splitOn_eq_singleton hpiece]
      · simp [List.splitOn_append_cons_self_of_not_mem hpiece]
    rcases hbefore with rfl | ⟨others, rfl⟩
    · exact hfirst
    · rw [List.append_assoc, List.singleton_append, List.splitOn_append_cons_self]
      exact List.mem_append_right _ hfirst

/-! ## Paths and their texts -/

namespace Path

/-- A part that can stand between slashes: it holds none, and it counts. -/
def IsPart (part : String) : Prop :=
  '/' ∉ part.toList ∧ isComponent part.toList = true

theorem isPart_of_mem_components {text : List Char} {part : String} (h : part ∈ components text) :
    IsPart part := by
  obtain ⟨piece, hpiece, rfl⟩ := List.mem_map.1 h
  obtain ⟨hpiece, hcounts⟩ := List.mem_filter.1 hpiece
  rw [IsPart, String.toList_ofList]
  exact ⟨(mem_splitOn_slash_iff.1 hpiece).1, hcounts⟩

/-- Slashes at the front of a text are no part of its components. -/
theorem components_cons_slash (text : List Char) : components ('/' :: text) = components text := by
  rw [components, List.splitOn_cons_eq_if_modifyHead]
  simp [components, isComponent]

theorem components_intercalate {parts : List String} (h : ∀ part ∈ parts, IsPart part) :
    components (['/'].intercalate (parts.map String.toList)) = parts := by
  cases parts with
  | nil => rfl
  | cons part parts =>
    rw [components, List.splitOn_intercalate '/' _ (by simp)]
    · rw [List.filter_eq_self.2, List.map_map]
      · simp
      · intro piece hpiece
        obtain ⟨part, hpart, rfl⟩ := List.mem_map.1 hpiece
        exact (h part hpart).2
    · intro piece hpiece
      obtain ⟨part, hpart, rfl⟩ := List.mem_map.1 hpiece
      exact (h part hpart).1

/-- A text of parts does not begin with a slash. -/
theorem takeWhile_slash_intercalate {parts : List String} (h : ∀ part ∈ parts, IsPart part) :
    (['/'].intercalate (parts.map String.toList)).takeWhile (· == '/') = [] := by
  cases parts with
  | nil => rfl
  | cons part parts =>
    obtain ⟨hslash, hcounts⟩ := h part List.mem_cons_self
    have hbegins : part.toList <+: ['/'].intercalate ((part :: parts).map String.toList) := by
      cases parts with
      | nil => simp
      | cons second others => simp [List.intercalate_cons_cons]
    obtain ⟨rest, hrest⟩ := hbegins
    rw [← hrest]
    cases hpart : part.toList with
    | nil => simp [hpart, isComponent] at hcounts
    | cons c text =>
      rw [hpart, List.mem_cons, not_or] at hslash
      simp [Ne.symm hslash.1]

/-- A path is read from its text as it is. -/
theorem ofText_text {path : Path} (h : ∀ part ∈ path.parts, IsPart part) :
    ofText path.text = path := by
  obtain ⟨root, parts⟩ := path
  have hparts := components_intercalate h
  have hroot := takeWhile_slash_intercalate h
  fun_cases text ⟨root, parts⟩ with
  | case1 hnone hrelative =>
    obtain rfl : parts = [] := hnone
    obtain rfl : root = .relative := hrelative
    decide
  | case2 =>
    -- the root is read from the slashes at the front, and these are no part of the components
    cases root <;>
      simp [ofText, rootOf, Root.text, String.toList_intercalate, components_cons_slash, hroot,
        hparts]

/-- A path lies in a base if it goes on from there and never back. -/
def LiesIn (path base : Path) : Prop :=
  path.root = base.root ∧ base.parts <+: path.parts ∧
    ".." ∉ path.parts.drop base.parts.length

instance (path base : Path) : Decidable (path.LiesIn base) :=
  inferInstanceAs (Decidable (_ ∧ _ ∧ _))

/-- What goes on from a base lies in it unless it goes back. -/
theorem liesIn_append_iff {base : Path} {below : List String} :
    LiesIn ⟨base.root, base.parts ++ below⟩ base ↔ ".." ∉ below := by
  simp [LiesIn]

/-- A relative text goes on from the base. -/
theorem ofText_text_join {base file : String} (isRelative : (ofText file).root = .relative) :
    ofText ((ofText base).join (ofText file)).text =
      ⟨(ofText base).root, (ofText base).parts ++ (ofText file).parts⟩ := by
  have hjoin : (ofText base).join (ofText file) =
      ⟨(ofText base).root, (ofText base).parts ++ (ofText file).parts⟩ := by
    simp [join, isRelative]
  rw [hjoin, ofText_text]
  intro part hpart
  exact (List.mem_append.1 hpart).elim isPart_of_mem_components isPart_of_mem_components

/-- Every piece `..` is kept as a component. -/
theorem goesBack_iff {text : List Char} :
    ".." ∈ components text ↔ ['.', '.'] ∈ text.splitOn '/' := by
  constructor
  · intro h
    obtain ⟨piece, hpiece, htext⟩ := List.mem_map.1 h
    have hdots : piece = ['.', '.'] := by
      rw [← String.toList_ofList (l := piece), htext]
      rfl
    rw [← hdots]
    exact (List.mem_filter.1 hpiece).1
  · intro h
    exact List.mem_map.2 ⟨['.', '.'], List.mem_filter.2 ⟨h, rfl⟩, rfl⟩

end Path

/-! ## File names of names -/

/-- A slash after a text without one stands in what follows it. -/
theorem slash_after {first rest before after : List Char} (h : '/' ∉ first) :
    first ++ rest = before ++ '/' :: after ↔
      ∃ between, before = first ++ between ∧ rest = between ++ '/' :: after := by
  constructor
  · intro heq
    rcases List.append_eq_append_iff.1 heq with ⟨between, rfl, hrest⟩ | ⟨between, hfirst, hafter⟩
    · exact ⟨between, rfl, hrest⟩
    · cases between with
      | nil => exact ⟨[], by simp_all, by simp_all⟩
      | cons c between =>
        rw [List.cons_append, List.cons_eq_cons] at hafter
        rw [hfirst, ← hafter.1] at h
        simp at h
  · rintro ⟨between, rfl, rfl⟩
    simp

/-- A slash before a text without one stands in what precedes it. -/
theorem slash_before {first last before after : List Char} (h : '/' ∉ last) :
    first ++ last = before ++ '/' :: after ↔
      ∃ between, after = between ++ last ∧ first = before ++ '/' :: between := by
  constructor
  · intro heq
    rcases List.append_eq_append_iff.1 heq with ⟨between, rfl, hlast⟩ | ⟨between, hfirst, hafter⟩
    · rw [hlast] at h
      simp at h
    · cases between with
      | nil =>
        rw [List.nil_append] at hafter
        rw [← hafter] at h
        simp at h
      | cons c between =>
        rw [List.cons_append, List.cons_eq_cons] at hafter
        exact ⟨between, hafter.2, by rw [hfirst, hafter.1]⟩
  · rintro ⟨between, rfl, rfl⟩
    simp

/-- What every file name begins with. -/
def stem : List Char := ['s', 'y', 'n', 't', 'a', 'x', '.']

/-- The file name of a name. -/
def fileName (name extension : List Char) : List Char :=
  stem ++ (name ++ '.' :: extension)

/-- A name whose file name has a component `..`: between two slashes of the name, or as what follows
the last of them, of which the extension and the point before it are a part. -/
def Climbs (name extension : List Char) : Prop :=
  ['/', '.', '.', '/'] <:+: name ∨ (['/', '.'] <:+ name ∧ extension = []) ∨
    (['/'] <:+ name ∧ extension = ['.'])

instance (name extension : List Char) : Decidable (Climbs name extension) :=
  inferInstanceAs (Decidable (_ ∨ _ ∨ _))

/-- The point before the extension belongs to the last piece, so only a short extension can make
that piece climb. -/
theorem climbs_iff {name extension : List Char} (noSlash : '/' ∉ extension) :
    ['.', '.'] ∈ (fileName name extension).splitOn '/' ↔ Climbs name extension := by
  have hfirst : '/' ∉ stem := by decide
  have hlast : '/' ∉ '.' :: extension := by simpa using noSlash
  constructor
  · intro h
    obtain ⟨-, before, after, htext, hbefore, hafter⟩ := mem_splitOn_slash_iff.1 h
    rcases hbefore with rfl | ⟨start, rfl⟩
    · simp [fileName, stem] at htext
    rw [List.append_assoc, List.singleton_append] at htext
    obtain ⟨between, rfl, hname⟩ := (slash_after hfirst).1 htext
    rcases hafter with rfl | ⟨rest, rfl⟩
    · -- the last piece is made of the end of the name, the point and the extension
      obtain ⟨ends, hends, rfl⟩ := (slash_before hlast).1 hname
      cases ends with
      | nil =>
        have hextension : extension = ['.'] := by simpa using hends.symm
        exact .inr (.inr ⟨⟨between, rfl⟩, hextension⟩)
      | cons c ends =>
        obtain ⟨rfl, hends⟩ := List.cons_eq_cons.1 hends
        obtain ⟨rfl, hextension⟩ : ends = [] ∧ extension = [] := by
          cases ends <;> simp_all
        exact .inr (.inl ⟨⟨between, rfl⟩, hextension⟩)
    · -- both slashes stand in the name, the second one too since none follows it
      have hsecond : name ++ '.' :: extension = (between ++ ['/', '.', '.']) ++ '/' :: rest := by
        simpa using hname
      obtain ⟨ends, -, rfl⟩ := (slash_before hlast).1 hsecond
      exact .inl ⟨between, ends, by simp⟩
  · intro h
    have hclimbs : ∀ before after, (after = [] ∨ ['/'] <+: after) →
        fileName name extension = stem ++ before ++ ['/'] ++ (['.', '.'] ++ after) →
        ['.', '.'] ∈ (fileName name extension).splitOn '/' := by
      intro before after hafter htext
      exact mem_splitOn_slash_iff.2 ⟨by decide, _, after, htext, .inr ⟨_, rfl⟩, hafter⟩
    rcases h with ⟨before, after, rfl⟩ | ⟨⟨before, rfl⟩, rfl⟩ | ⟨⟨before, rfl⟩, rfl⟩
    · exact hclimbs before ('/' :: (after ++ '.' :: extension)) (.inr ⟨_, rfl⟩) (by simp [fileName])
    · exact hclimbs before [] (.inl rfl) (by simp [fileName])
    · exact hclimbs before [] (.inl rfl) (by simp [fileName])

end Highlighter.Resource

namespace Highlighter.Registry

open Highlighter.Resource

theorem locate_of_bare {settings : Settings} {name base extension : String}
    (bare : isPathLike name = false) (hbase : settings.baseLocation = .text base)
    (isLocal : isRemote base = false)
    (hextension : settings.profileExtension.plain? = .ok extension) :
    locate settings name = .ok ((Path.ofText base).join (Path.ofText
      (String.ofList (fileName name.toList extension.toList)))).text := by
  have hfile : "syntax." ++ name ++ "." ++ extension =
      String.ofList (fileName name.toList extension.toList) := by
    rw [← String.toList_inj, String.toList_ofList]
    simp only [String.toList_append, List.append_assoc]
    rfl
  simp only [locate, bare, hbase, isLocal, Bool.false_eq_true, if_false, hextension]
  rw [← hfile]
  rfl

/-- A name that is not a location itself is looked up at a path that goes on from the base, whatever
slashes it has, and this path lies in the base exactly if the name does not climb. If the extension
cannot be written, there is no such path. -/
theorem located_in_base_iff (settings : Settings) (name base : String)
    (bare : isPathLike name = false) (hbase : settings.baseLocation = .text base)
    (isLocal : isRemote base = false) (noSlash : '/' ∉ settings.profileExtension.plain.toList) :
    (∀ fault, settings.profileExtension.plain? = .error fault →
      locate settings name = .error fault) ∧
    ∀ extension, settings.profileExtension.plain? = .ok extension →
      ∃ location below, locate settings name = .ok location ∧
        Path.ofText location = ⟨(Path.ofText base).root, (Path.ofText base).parts ++ below⟩ ∧
        ((Path.ofText location).LiesIn (Path.ofText base) ↔
          ¬ Climbs name.toList extension.toList) := by
  constructor
  · intro fault hfault
    simp only [locate, bare, hfault]
    rfl
  intro extension hextension
  rw [Value.plain_of_plain? hextension] at noSlash
  have hlocate := locate_of_bare bare hbase isLocal hextension
  generalize hfile : String.ofList (fileName name.toList extension.toList) = file at hlocate
  have htext : file.toList = fileName name.toList extension.toList := by
    rw [← hfile, String.toList_ofList]
  -- the file name begins with a letter, so it does not lead away from the base
  have isRelative : (Path.ofText file).root = .relative := by
    rw [Path.ofText, htext]
    rfl
  have hpath := @Path.ofText_text_join base file isRelative
  refine ⟨_, (Path.ofText file).parts, hlocate, hpath, ?_⟩
  rw [hpath, Path.liesIn_append_iff, Path.ofText, Path.goesBack_iff, htext, climbs_iff noSlash]

/-- A slash alone does not lead out of the base. -/
theorem located_in_base_of_slash :
    ∃ location, locate { profileBase := .text "/srv/profiles" } "team/python" = .ok location ∧
      (Path.ofText location).LiesIn (Path.ofText "/srv/profiles") := by
  obtain ⟨location, -, hlocation, -, hlies⟩ := (located_in_base_iff
    { profileBase := .text "/srv/profiles" } "team/python" "/srv/profiles"
    (by decide +kernel) rfl (by decide +kernel) (by decide +kernel)).2 "py" rfl
  exact ⟨location, hlocation, hlies.2 (by decide +kernel)⟩

/-- A name that begins with a letter leads to a file beside the base. -/
theorem located_beside_base :
    isPathLike "x/../../secret" = false ∧
      (locate { profileBase := .text "/srv/profiles" } "x/../../secret").toOption =
        some "/srv/profiles/syntax.x/../../secret.py" ∧
      ¬ (Path.ofText "/srv/profiles/syntax.x/../../secret.py").LiesIn
        (Path.ofText "/srv/profiles") := by
  decide +kernel

end Highlighter.Registry
