/-
This file shows which path parameters stay inside the literals of the pages.
-/
import OsuPlayerRole.Construction.Routes.Pages
import OsuPlayerRole.Library.ScriptLiteral

namespace OsuPlayerRole.Pages

open ScriptData ScriptLiteral Substitution

/-- The tokenizer reads the quoted values from the start of a script. It neither leaves the script
nor waits for a second end tag. -/
def Inside (values : List (List Char)) : Prop :=
  ∃ next, reads .data (values.map scriptText) = some next ∧ next ≠ .doubleEscaped

instance (values : List (List Char)) : Decidable (Inside values) :=
  match reading : reads .data (values.map scriptText) with
  | none => isFalse fun ⟨_, same, _⟩ => nomatch reading.symm.trans same
  | some next =>
      decidable_of_iff (next ≠ .doubleEscaped)
        ⟨fun other => ⟨next, reading, other⟩,
          fun ⟨_, same, other⟩ => Option.some.inj (reading.symm.trans same) ▸ other⟩

/-- The text before a quoted value, as a script has it. -/
def Label (text : List Char) : Prop := Verbatim text ∧ Neutral (text ++ ['"'])

instance (text : List Char) : Decidable (Label text) := inferInstanceAs (Decidable (_ ∧ _))

/-- The script of a page ends at its own end tag exactly when its values stay inside. -/
theorem encloses_iff {page before text foot : List Char} {parts : List (List Char × List Char)}
    (located : page = before ++ quoted parts (text ++ (endTag ++ foot)))
    (labels : ∀ part ∈ parts, Label part.1) (closing : Verbatim text ∧ Neutral text)
    (verbatim : Verbatim foot) :
    Encloses page before (quoted parts (text ++ (endTag ++ foot))) foot ↔
      Inside (parts.map Prod.snd) := by
  have tail : Verbatim (text ++ (endTag ++ foot)) :=
    verbatim_append.2 ⟨closing.1, verbatim_append.2 ⟨by decide, verbatim⟩⟩
  have shownParts : ∀ part ∈ parts.map (fun part => (part.1, scriptText part.2)),
      Neutral (part.1 ++ ['"']) := by
    intro part member
    obtain ⟨original, present, rfl⟩ := List.mem_map.1 member
    exact (labels original present).2
  rw [Encloses, and_iff_right located, scriptText_quoted fun part member => (labels part member).1,
    scriptText_verbatim tail, scriptText_verbatim verbatim,
    afterEndTag_quoted .data shownParts closing.2, Inside, List.map_map, List.map_map]
  rfl

section UsersPage

variable (template : UsersTemplate) (baseUrl : String) (guildId : GuildId)

def usersOrder : List UsersKey := [.baseUrl, .guildId]

def usersContent : UsersKey → List Char
  | .baseUrl => baseUrl.toList
  | .guildId => guildId.toList

def usersBefore : List Char :=
  template.head ++ "<link rel=\"icon\" href=".toList ++ '"' :: (baseUrl.toList ++ '/' ::
    ("favicon.ico\">".toList ++ template.styles ++ "<script>".toList))

def usersParts : List (List Char × List Char) :=
  [("\nconst BASE_URL = ".toList, baseUrl.toList), (";\nconst GUILD_ID = ".toList, guildId.toList)]

def usersElement : List Char :=
  quoted (usersParts baseUrl guildId)
    ((";\n".toList ++ template.script) ++ (endTag ++ template.foot))

/-- The page is the template with its values, and its guild id is a literal of its own script. -/
structure UsersContained : Prop where
  filled : usersPage template baseUrl guildId = template.template.fill (usersContent baseUrl guildId)
  spared : Spared UsersKey.placeholder (usersContent baseUrl guildId) usersOrder
  script : Encloses (usersPage template baseUrl guildId) (usersBefore template baseUrl)
    (usersElement template baseUrl guildId) template.foot
  guildId : Denotes (usersPage template baseUrl guildId) template.template
    (usersContent baseUrl guildId) .guildId

/-- The condition on the values of the page. -/
structure UsersSafe : Prop where
  absent : Absent UsersKey.placeholder (usersContent baseUrl guildId) usersOrder
  inside : Inside [baseUrl.toList, guildId.toList]
  guildId : Plain guildId.toList

variable {template baseUrl guildId}

/-- No placeholder is empty. -/
theorem usersPlaceholder_ne_nil (key : UsersKey) : key.placeholder ≠ [] := by
  cases key <;> decide

/-- Where no value is rewritten, the page is the template with its values filled in. -/
theorem usersPage_filled (spared : Spared UsersKey.placeholder (usersContent baseUrl guildId)
      usersOrder) :
    usersPage template baseUrl guildId = template.template.fill (usersContent baseUrl guildId) :=
  substitute_template usersPlaceholder_ne_nil template.free (fun key => by cases key <;> decide)
    (by decide +kernel) spared

/-- The page is cut before its script element. -/
theorem usersPage_located : template.template.fill (usersContent baseUrl guildId) =
    usersBefore template baseUrl ++ usersElement template baseUrl guildId := by
  simp only [UsersTexts.template, Template.fill, Slot.fill, usersContent, usersBefore,
    usersElement, usersParts, quoted, List.flatMap_cons, List.flatMap_nil, List.append_assoc,
    List.cons_append, List.nil_append]

/-- The script element is enclosed exactly when its values stay inside. -/
theorem usersPage_encloses :
    Encloses (template.template.fill (usersContent baseUrl guildId)) (usersBefore template baseUrl)
        (usersElement template baseUrl guildId) template.foot ↔
      Inside [baseUrl.toList, guildId.toList] := by
  obtain ⟨script, foot⟩ := verbatim_append.1 template.verbatim
  have base : Label "\nconst BASE_URL = ".toList := by decide +kernel
  have guild : Label ";\nconst GUILD_ID = ".toList := by decide +kernel
  have labels : ∀ part ∈ usersParts baseUrl guildId, Label part.1 :=
    List.forall_mem_cons.2 ⟨base, List.forall_mem_singleton.2 guild⟩
  have closing : Verbatim (";\n".toList ++ template.script) ∧
      Neutral (";\n".toList ++ template.script) :=
    ⟨verbatim_append.2 ⟨by decide +kernel, script⟩,
      Neutral.append (by decide +kernel) template.neutral⟩
  exact encloses_iff usersPage_located labels closing foot

/-- The literal denotes the guild id exactly when the id is plain. -/
theorem usersPage_denotes :
    Denotes (template.template.fill (usersContent baseUrl guildId)) template.template
        (usersContent baseUrl guildId) .guildId ↔ Plain guildId.toList := by
  refine denotes_iff _ ⟨⟨";\nconst GUILD_ID = ".toList, '"', .guildId, '"'⟩, ?_, rfl⟩ ?_
  · exact List.mem_cons_of_mem _ (List.mem_cons_of_mem _ List.mem_cons_self)
  · intro slot member named
    simp only [UsersTexts.template, List.mem_cons, List.not_mem_nil, or_false] at member
    rcases member with rfl | rfl | rfl
    · cases named
    · cases named
    · exact ⟨rfl, rfl⟩

/-- The page of the players contains its guild id exactly when its values are safe. -/
theorem usersPage_contained_iff :
    UsersContained template baseUrl guildId ↔ UsersSafe baseUrl guildId := by
  have absence := @spared_iff_absent _ _ _ _ (usersContent baseUrl guildId) usersOrder
    usersPlaceholder_ne_nil
  constructor
  · rintro ⟨filled, spared, script, literal⟩
    rw [filled] at script literal
    exact ⟨absence.1 spared, usersPage_encloses.1 script, usersPage_denotes.1 literal⟩
  · rintro ⟨absent, inside, plain⟩
    have spared := absence.2 absent
    have filled := @usersPage_filled template _ _ spared
    refine ⟨filled, spared, ?_, ?_⟩
    · rw [filled]
      exact usersPage_encloses.2 inside
    · rw [filled]
      exact usersPage_denotes.2 plain

end UsersPage

section RoleConfigPage

variable (template : RoleConfigTemplate) (baseUrl : String) (guildId : GuildId) (roleId : RoleId)
  (iframeSession : Option String) (readOnly : Bool)

def roleConfigOrder : List RoleConfigKey := [.baseUrl, .guildId, .roleId, .iframeToken, .readOnly]

def roleConfigContent : RoleConfigKey → List Char
  | .baseUrl => baseUrl.toList
  | .guildId => guildId.toList
  | .roleId => roleId.toList
  | .iframeToken => (iframeSession.getD "").toList
  | .readOnly => (if readOnly then "1" else "0").toList

def roleConfigBefore : List Char :=
  template.head ++ "<link rel=\"icon\" href=".toList ++ '"' :: (baseUrl.toList ++ '/' ::
    ("favicon.ico\">".toList ++ template.styles ++ "<script>".toList))

def roleConfigParts : List (List Char × List Char) :=
  [(template.opening ++ "const BASE_URL=".toList, baseUrl.toList),
    (", GUILD_ID=".toList, guildId.toList), (", ROLE_ID=".toList, roleId.toList),
    (";\nconst IFRAME_TOKEN=".toList, (iframeSession.getD "").toList)]

def readOnlyVariable : List Char :=
  "  var READ_ONLY = ".toList ++ '\x27' :: ((if readOnly then "1" else "0").toList ++ ['\x27'])

def roleConfigClosing : List Char :=
  (", IS_EMBEDDED=!!IFRAME_TOKEN;\n".toList ++ template.helpers) ++
    (readOnlyVariable readOnly ++ (" === '1';\n".toList ++ template.script))

def roleConfigElement : List Char :=
  quoted (roleConfigParts template baseUrl guildId roleId iframeSession)
    (roleConfigClosing template readOnly ++ (endTag ++ template.foot))

/-- The page is the template with its values, and its ids are literals of its own script. -/
structure RoleConfigContained : Prop where
  filled : roleConfigBody template baseUrl guildId roleId iframeSession readOnly =
    template.template.fill (roleConfigContent baseUrl guildId roleId iframeSession readOnly)
  spared : Spared RoleConfigKey.placeholder
    (roleConfigContent baseUrl guildId roleId iframeSession readOnly) roleConfigOrder
  script : Encloses (roleConfigBody template baseUrl guildId roleId iframeSession readOnly)
    (roleConfigBefore template baseUrl)
    (roleConfigElement template baseUrl guildId roleId iframeSession readOnly) template.foot
  ids : ∀ key : RoleConfigKey, key = .guildId ∨ key = .roleId →
    Denotes (roleConfigBody template baseUrl guildId roleId iframeSession readOnly)
      template.template (roleConfigContent baseUrl guildId roleId iframeSession readOnly) key

/-- The condition on the values of the page. -/
structure RoleConfigSafe : Prop where
  absent : Absent RoleConfigKey.placeholder
    (roleConfigContent baseUrl guildId roleId iframeSession readOnly) roleConfigOrder
  inside : Inside [baseUrl.toList, guildId.toList, roleId.toList, (iframeSession.getD "").toList]
  guildId : Plain guildId.toList
  roleId : Plain roleId.toList

variable {template baseUrl guildId roleId iframeSession readOnly}

/-- No placeholder is empty. -/
theorem roleConfigPlaceholder_ne_nil (key : RoleConfigKey) : key.placeholder ≠ [] := by
  cases key <;> decide

/-- Where no value is rewritten, the page is the template with its values filled in. -/
theorem roleConfigBody_filled (spared : Spared RoleConfigKey.placeholder
      (roleConfigContent baseUrl guildId roleId iframeSession readOnly) roleConfigOrder) :
    roleConfigBody template baseUrl guildId roleId iframeSession readOnly =
      template.template.fill (roleConfigContent baseUrl guildId roleId iframeSession readOnly) :=
  substitute_template roleConfigPlaceholder_ne_nil template.free
    (fun key => by cases key <;> decide) (by decide +kernel) spared

/-- The page is cut before its script element. -/
theorem roleConfigBody_located :
    template.template.fill (roleConfigContent baseUrl guildId roleId iframeSession readOnly) =
      roleConfigBefore template baseUrl ++
        roleConfigElement template baseUrl guildId roleId iframeSession readOnly := by
  unfold roleConfigBefore roleConfigElement roleConfigParts roleConfigClosing readOnlyVariable
  rw [RoleConfigTexts.template, Template.fill]
  simp only [List.flatMap_cons, List.flatMap_nil, Slot.fill, roleConfigContent, quoted]
  simp only [List.append_assoc, List.cons_append, List.nil_append]

/-- The end of the script is neutral with either flag. -/
theorem roleConfigClosing_neutral :
    Verbatim (roleConfigClosing template readOnly) ∧
      Neutral (roleConfigClosing template readOnly) := by
  obtain ⟨texts, _⟩ := verbatim_append.1 template.verbatim
  obtain ⟨texts, script⟩ := verbatim_append.1 texts
  obtain ⟨_, helpers⟩ := verbatim_append.1 texts
  obtain ⟨_, helpersNeutral, scriptNeutral⟩ := template.neutral
  have declared : Verbatim (readOnlyVariable readOnly) ∧ Neutral (readOnlyVariable readOnly) := by
    cases readOnly <;> decide +kernel
  constructor
  · exact verbatim_append.2 ⟨verbatim_append.2 ⟨by decide +kernel, helpers⟩,
      verbatim_append.2 ⟨declared.1, verbatim_append.2 ⟨by decide +kernel, script⟩⟩⟩
  · exact (Neutral.append (by decide +kernel) helpersNeutral).append
      (declared.2.append (Neutral.append (by decide +kernel) scriptNeutral))

/-- The script element is enclosed exactly when its values stay inside. -/
theorem roleConfigBody_encloses :
    Encloses
        (template.template.fill (roleConfigContent baseUrl guildId roleId iframeSession readOnly))
        (roleConfigBefore template baseUrl)
        (roleConfigElement template baseUrl guildId roleId iframeSession readOnly) template.foot ↔
      Inside [baseUrl.toList, guildId.toList, roleId.toList, (iframeSession.getD "").toList] := by
  obtain ⟨texts, foot⟩ := verbatim_append.1 template.verbatim
  obtain ⟨texts, _⟩ := verbatim_append.1 texts
  obtain ⟨opening, _⟩ := verbatim_append.1 texts
  have base : Label (template.opening ++ "const BASE_URL=".toList) := by
    refine ⟨verbatim_append.2 ⟨opening, by decide +kernel⟩, ?_⟩
    rw [List.append_assoc]
    exact template.neutral.1.append (by decide +kernel)
  have guild : Label ", GUILD_ID=".toList := by decide +kernel
  have role : Label ", ROLE_ID=".toList := by decide +kernel
  have token : Label ";\nconst IFRAME_TOKEN=".toList := by decide +kernel
  have labels : ∀ part ∈ roleConfigParts template baseUrl guildId roleId iframeSession,
      Label part.1 :=
    List.forall_mem_cons.2 ⟨base, List.forall_mem_cons.2 ⟨guild, List.forall_mem_cons.2 ⟨role,
      List.forall_mem_singleton.2 token⟩⟩⟩
  exact encloses_iff roleConfigBody_located labels roleConfigClosing_neutral foot

/-- Each literal denotes its id exactly when the id is plain. -/
theorem roleConfigBody_denotes {key : RoleConfigKey} (id : key = .guildId ∨ key = .roleId) :
    Denotes
        (template.template.fill (roleConfigContent baseUrl guildId roleId iframeSession readOnly))
        template.template (roleConfigContent baseUrl guildId roleId iframeSession readOnly) key ↔
      Plain (roleConfigContent baseUrl guildId roleId iframeSession readOnly key) := by
  refine denotes_iff _ ?_ ?_
  · rcases id with rfl | rfl
    · exact ⟨⟨", GUILD_ID=".toList, '"', .guildId, '"'⟩,
        List.mem_cons_of_mem _ (List.mem_cons_of_mem _ List.mem_cons_self), rfl⟩
    · exact ⟨⟨", ROLE_ID=".toList, '"', .roleId, '"'⟩, List.mem_cons_of_mem _
        (List.mem_cons_of_mem _ (List.mem_cons_of_mem _ List.mem_cons_self)), rfl⟩
  · intro slot member named
    simp only [RoleConfigTexts.template, List.mem_cons, List.not_mem_nil, or_false] at member
    -- The slots before the ids and behind them have other keys.
    rcases member with rfl | rfl | rfl | rfl | rfl | rfl
    · rcases id with rfl | rfl <;> cases named
    · exact ⟨rfl, rfl⟩
    · exact ⟨rfl, rfl⟩
    · exact ⟨rfl, rfl⟩
    · exact ⟨rfl, rfl⟩
    · rcases id with rfl | rfl <;> cases named

/-- The page of the configuration contains its ids exactly when its values are safe. -/
theorem roleConfigBody_contained_iff :
    RoleConfigContained template baseUrl guildId roleId iframeSession readOnly ↔
      RoleConfigSafe baseUrl guildId roleId iframeSession readOnly := by
  have absence := @spared_iff_absent _ _ _ _
    (roleConfigContent baseUrl guildId roleId iframeSession readOnly) roleConfigOrder
    roleConfigPlaceholder_ne_nil
  constructor
  · rintro ⟨filled, spared, script, ids⟩
    rw [filled] at script ids
    exact ⟨absence.1 spared, roleConfigBody_encloses.1 script,
      (roleConfigBody_denotes (.inl rfl)).1 (ids _ (.inl rfl)),
      (roleConfigBody_denotes (.inr rfl)).1 (ids _ (.inr rfl))⟩
  · rintro ⟨absent, inside, guild, role⟩
    have spared := absence.2 absent
    have filled := @roleConfigBody_filled template _ _ _ _ _ spared
    refine ⟨filled, spared, ?_, ?_⟩
    · rw [filled]
      exact roleConfigBody_encloses.2 inside
    · intro key id
      rw [filled, roleConfigBody_denotes id]
      rcases id with rfl | rfl
      · exact guild
      · exact role

end RoleConfigPage

/-- A page contains its path parameters exactly when its values are safe. -/
theorem pages_contain_iff (users : UsersTemplate) (roleConfig : RoleConfigTemplate) (baseUrl : String)
    (guildId : GuildId) (roleId : RoleId) (iframeSession : Option String) (readOnly : Bool) :
    (UsersContained users baseUrl guildId ↔ UsersSafe baseUrl guildId) ∧
      (RoleConfigContained roleConfig baseUrl guildId roleId iframeSession readOnly ↔
        RoleConfigSafe baseUrl guildId roleId iframeSession readOnly) :=
  ⟨usersPage_contained_iff, roleConfigBody_contained_iff⟩

section Short

/-- A file with the lines of the placeholders and nearly nothing else. -/
def shortUsersTemplate : UsersTemplate where
  head := "<!DOCTYPE html>\n".toList
  styles := "\n".toList
  script := "load();\n".toList
  foot := "\n".toList
  free := fun key => by cases key <;> decide +kernel
  verbatim := by decide +kernel
  neutral := by decide +kernel

def shortRoleConfigTemplate : RoleConfigTemplate where
  head := "<!DOCTYPE html>\n".toList
  styles := "\n".toList
  opening := "\n".toList
  helpers := "const TEAM_GROUPS = [];\n".toList
  script := "load();\n".toList
  foot := "\n".toList
  free := fun key => by cases key <;> decide +kernel
  verbatim := by decide +kernel
  neutral := by decide +kernel

/-- A quotation mark in the guild id ends the literal before its end, whatever the rest of the file. -/
theorem guildId_ends_literal :
    ¬ ∃ (template : UsersTemplate) (baseUrl : String),
      UsersContained template baseUrl "\";alert(1);\"" := by
  rintro ⟨template, baseUrl, contained⟩
  exact absurd (usersPage_contained_iff.1 contained).guildId (by decide +kernel)

example : UsersContained shortUsersTemplate "https://osu.example" "815512345" :=
  usersPage_contained_iff.2 ⟨by decide +kernel, by decide +kernel, by decide +kernel⟩

example : RoleConfigContained shortRoleConfigTemplate "https://osu.example" "8155" "91" none false :=
  roleConfigBody_contained_iff.2
    ⟨by decide +kernel, by decide +kernel, by decide +kernel, by decide +kernel⟩

end Short

end OsuPlayerRole.Pages
