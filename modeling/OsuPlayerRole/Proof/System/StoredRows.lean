/-
This file shows what every row of the database keeps under each statement.
-/
import OsuPlayerRole.Construction.Tasks.Deployment
import OsuPlayerRole.Proof.Jobs.Debounce
import OsuPlayerRole.Proof.Rule.AcceptedTree
import OsuPlayerRole.Proof.Web.StatementFrame

namespace OsuPlayerRole.Deployment

open Web KeyedTable RuleValidator

/-- The kind of the job is known, and the payload has its shape. -/
def Legible (job : Jobs.ClaimedJob) : Prop :=
  ∃ dispatch, ∀ texts, JobWorker.decode texts job = .ok dispatch

/-- The column has the default rule or an accepted one, and it is read back without a loss. -/
def StoredRule (engines : Engines) (column : Json.Value) : Prop :=
  ∃ tree : RuleTree, column = tree.toValue ∧ RuleTree.ofColumn column = tree ∧
    (tree = default ∨ ∃ body, parseRuleTree engines body = .ok tree)

/-- What the stored rows keep. -/
structure Sound (engines : Engines) (tables : Tables) : Prop where
  jobs : ∀ job ∈ tables.jobs.rows, Legible (.ofRow job)
  rules : ∀ row ∈ tables.roleLinks.rows,
    StoredRule engines row.ruleTree.value ∧ 1 ≤ row.ruleTreeVersion.val
  permissions : ∀ row ∈ tables.guildSettings.rows, row.viewPermission ∈ Users.viewPermissions

section Rows

variable {engines : Engines} {tables after : Tables}

/-- The empty database is sound. -/
theorem sound_empty : Sound engines .empty :=
  ⟨fun _ member => absurd member List.not_mem_nil, fun _ member => absurd member List.not_mem_nil,
    fun _ member => absurd member List.not_mem_nil⟩

/-- Every job of the later queue has the kind and the payload of an earlier one, or it is legible. -/
def JobsFrom (before after : Tables) : Prop :=
  ∀ job ∈ after.jobs.rows,
    (∃ old ∈ before.jobs.rows, job.kind = old.kind ∧ job.payload = old.payload) ∨ Legible (.ofRow job)

/-- A step that keeps the jobs adds none. -/
theorem jobsFrom_of_eq (same : after.jobs = tables.jobs) : JobsFrom tables after :=
  fun job member => .inl ⟨job, same ▸ member, rfl, rfl⟩

/-- The identifier and the attempts of a job do not matter. -/
theorem Legible.congr {first second : Jobs.ClaimedJob} (legible : Legible first)
    (kind : second.kind = first.kind) (payload : second.payload = first.payload) : Legible second := by
  obtain ⟨dispatch, decoded⟩ := legible
  refine ⟨dispatch, fun texts => ?_⟩
  rw [← decoded texts]
  unfold JobWorker.decode
  rw [kind, payload]

/-- A step that keeps the links and adds sound jobs alone keeps the database sound. -/
theorem Sound.from (sound : Sound engines tables) (kept : LinksKept tables after)
    (jobs : JobsFrom tables after) : Sound engines after where
  jobs job member := by
    obtain ⟨old, inside, kind, payload⟩ | legible := jobs job member
    · exact (sound.jobs old inside).congr kind payload
    · exact legible
  rules row member := sound.rules row (kept.roleLinks ▸ member)
  permissions row member := sound.permissions row (kept.guildSettings ▸ member)

/-- A change of the schedule keeps the kind and the payload of a job. -/
theorem jobsFrom_updateJobs {condition : Job → Bool} {change : Job → Job}
    {keeps : ∀ row, (Jobs.changeWhere condition change row).id = row.id}
    (kind : ∀ row, (change row).kind = row.kind) (payload : ∀ row, (change row).payload = row.payload) :
    JobsFrom tables (Jobs.updateJobs tables (Jobs.changeWhere condition change) keeps) := by
  intro job member
  obtain ⟨old, _⟩ | ⟨old, inside, _, rfl⟩ := JobWorker.mem_changeWhere member
  · exact .inl ⟨job, old, rfl, rfl⟩
  · exact .inl ⟨old, inside, kind old, payload old⟩

end Rows

section Queue

variable {tables after : Tables} {now : Timestamp}

/-- An enqueued job is legible when its kind and its payload are. -/
theorem jobsFrom_enqueue {kind : String} {payload : Json.Value} {delaySecs : Nat}
    (legible : ∀ job : Jobs.ClaimedJob, job.kind = kind → job.payload.value = payload → Legible job)
    (written : tables.enqueue now kind payload delaySecs = .ok after) : JobsFrom tables after := by
  obtain ⟨stored, accepted, remaining⟩ := Checked.bind_ok written
  have same : stored.value = payload := by
    unfold RuleSql.jsonb at accepted
    split at accepted
    · cases accepted
      rfl
    · cases accepted
  cases remaining
  have below : ∀ other ∈ tables.jobs.rows, other.id ≠ tables.jobSequence :=
    fun other member => Nat.ne_of_lt (tables.jobsBelow other member)
  intro job member
  change job ∈ (tables.jobs.insertNew
    (Tables.freshJob now tables.jobSequence kind stored delaySecs) below).rows at member
  obtain old | rfl := Table.mem_insertNew.mp member
  · exact .inl ⟨job, old, rfl, rfl⟩
  · exact .inr (legible _ rfl same)

/-- An enqueued player job can be dispatched. -/
theorem jobsFrom_enqueuePlayerSync {discordId : DiscordId}
    (written : tables.enqueuePlayerSync now discordId = .ok after) : JobsFrom tables after := by
  refine jobsFrom_enqueue (fun job kind payload => ⟨.playerSync discordId, fun texts => ?_⟩) written
  rw [JobWorker.decode, if_pos kind, payload]
  rfl

/-- An enqueued link job can be dispatched. -/
theorem jobsFrom_enqueueConfigSync {link : Link}
    (written : tables.enqueueConfigSync now link = .ok after) : JobsFrom tables after := by
  refine jobsFrom_enqueue (fun job kind payload => ⟨.configSync link, fun texts => ?_⟩) written
  have other : ¬job.kind = "player_sync" := by rw [kind]; decide
  have guild : JobWorker.textOf job.payload.value "guild_id" = some link.1 := by rw [payload]; rfl
  have role : JobWorker.textOf job.payload.value "role_id" = some link.2 := by rw [payload]; rfl
  rw [JobWorker.decode, if_neg other, if_pos kind, guild]
  dsimp only
  rw [role]

/-- A collection leaves some of the jobs. -/
theorem jobsFrom_deleteJobs (condition : Job → Bool) :
    JobsFrom tables (Jobs.deleteJobs tables condition) :=
  fun job member => .inl ⟨job, (Table.mem_delete.mp member).1, rfl, rfl⟩

/-- The statements of a worker keep the kinds and the payloads. -/
theorem jobsFrom_of_steps {texts : ErrorTexts} {batchSize : Nat} {worker moved : JobWorker.Worker}
    (steps : JobWorker.Steps texts batchSize now tables worker moved after) : JobsFrom tables after := by
  cases steps with
  | reaped place due => exact jobsFrom_updateJobs (fun _ => rfl) fun _ => rfl
  | idle skipped after place claimed | claimed skipped job rest after place claimed =>
      obtain ⟨_, _, rfl⟩ := JobWorker.claimBatch_ok claimed
      exact jobsFrom_updateJobs (fun _ => rfl) fun _ => rfl
  | reported job outcome rest jitterMs after place performed =>
      rw [JobWorker.perform_ok performed]
      exact jobsFrom_updateJobs (fun _ => by cases outcome <;> rfl) fun _ => by cases outcome <;> rfl
  | _ => exact jobsFrom_of_eq rfl

/-- The statements of a worker leave the links and the settings alone. -/
theorem linksKept_of_steps {texts : ErrorTexts} {batchSize : Nat} {worker moved : JobWorker.Worker}
    (steps : JobWorker.Steps texts batchSize now tables worker moved after) : LinksKept tables after := by
  cases steps with
  | idle skipped after place claimed | claimed skipped job rest after place claimed =>
      obtain ⟨_, _, rfl⟩ := JobWorker.claimBatch_ok claimed
      exact ⟨rfl, rfl, rfl⟩
  | reported job outcome rest jitterMs after place performed =>
      rw [JobWorker.perform_ok performed]
      exact ⟨rfl, rfl, rfl⟩
  | _ => exact ⟨rfl, rfl, rfl⟩

/-- A claimed job is as legible as its row. -/
theorem legible_held {engines : Engines} {texts : ErrorTexts} {batchSize : Nat}
    {worker moved : JobWorker.Worker} (sound : Sound engines tables)
    (steps : JobWorker.Steps texts batchSize now tables worker moved after)
    (held : ∀ job ∈ worker.phase.held, Legible job) : ∀ job ∈ moved.phase.held, Legible job := by
  intro job member
  cases steps with
  | claimed skipped first rest after place claimed =>
      obtain ⟨_, listed, _⟩ := JobWorker.claimBatch_ok claimed
      change job ∈ first :: rest at member
      obtain ⟨row, taken, rfl⟩ := List.mem_map.mp (listed.mem_iff.mp member)
      exact (sound.jobs row (JobWorker.mem_toClaim taken).1).congr rfl rfl
  | released guard first rest place told | started guard first rest place told
  | ended first rest result place =>
      rw [place] at held
      exact held job member
  | reported first outcome rest jitterMs after place performed | unreported first outcome rest place =>
      rw [place] at held
      exact held job (List.mem_cons_of_mem _ member)
  | observed | polled | reaped | spared | unclaimed | idle | woken | again => cases member

end Queue

section Links

variable {engines : Engines} {tables after : Tables} {now : Timestamp} {link : Link}

/-- The default tree is a sound rule. -/
theorem storedRule_default : StoredRule engines (default : RuleTree).toValue :=
  ⟨default, rfl, rfl, .inl rfl⟩

/-- An accepted tree is a sound rule. -/
theorem storedRule_parsed {tree : RuleTree} {body : RuleTreeBody}
    (parsed : parseRuleTree engines body = .ok tree) : StoredRule engines tree.toValue :=
  ⟨tree, rfl, ofColumn_toValue (parseRuleTree_shaped parsed), .inr ⟨body, parsed⟩⟩

/-- An update changes each row in its place. -/
theorem mem_updateRoleLink {row : RoleLink} {change : RoleLink → RoleLink}
    {keeps : ∀ row, (change row).link = row.link} :
    row ∈ (tables.updateRoleLink change keeps).roleLinks.rows ↔
      ∃ old ∈ tables.roleLinks.rows, change old = row := by
  change row ∈ (tables.roleLinks.update change keeps).rows ↔ _
  exact Table.mem_update

/-- A registration keeps the rule of a stored link, and a new link has the default rule. -/
theorem Sound.insertRoleLink {token : String} (sound : Sound engines tables)
    (written : Plugin.insertRoleLink now link.1 link.2 token tables = .ok after) :
    Sound engines after := by
  obtain ⟨_, _, remaining⟩ := Checked.bind_ok written
  cases remaining
  refine ⟨sound.jobs, ?_, sound.permissions⟩
  refine Table.forall_upsert (by intro row; rfl) sound.rules ?_ sound.rules
  exact ⟨storedRule_default, Int.le_refl 1⟩

/-- The new version is larger than a stored one. -/
theorem Sound.updateRuleTree {tree : RuleTree} {body : RuleTreeBody} {expected : Int4} {affected : Nat}
    (sound : Sound engines tables) (parsed : parseRuleTree engines body = .ok tree)
    (written : tables.updateRuleTree now tree.toValue link expected = .ok (affected, after)) :
    Sound engines after := by
  obtain ⟨stored, encoded, remaining⟩ := Checked.bind_ok written
  obtain ⟨_, _, remaining⟩ := Checked.bind_ok remaining
  split at remaining
  · cases remaining
    exact sound
  · next row found =>
      split at remaining
      · obtain ⟨version, fits, remaining⟩ := Checked.bind_ok remaining
        cases remaining
        refine ⟨sound.jobs, fun other member => ?_, sound.permissions⟩
        obtain ⟨old, inside, rfl⟩ := mem_updateRoleLink.mp member
        unfold Tables.bumped
        split
        · have same : stored.value = tree.toValue := by
            unfold RuleSql.jsonb at encoded
            split at encoded
            · cases encoded
              rfl
            · cases encoded
          refine ⟨?_, ?_⟩
          · change StoredRule engines stored.value
            rw [same]
            exact storedRule_parsed parsed
          · have before := (sound.rules row (Table.find_eq_some.mp found).1).2
            unfold Int4.ofInt at fits
            split at fits
            · cases fits
              change 1 ≤ row.ruleTreeVersion.val + 1
              omega
            · cases fits
        · exact sound.rules old inside
      · cases remaining
        exact sound

/-- A deletion keeps the other rules. -/
theorem Sound.deleteRoleLinks (sound : Sound engines tables) (condition : RoleLink → Bool) :
    Sound engines (tables.deleteRoleLinks condition) :=
  ⟨sound.jobs, fun row member => sound.rules row (Table.mem_delete.mp member).1, sound.permissions⟩

/-- The settings of a new guild have a known permission. -/
theorem Sound.insertGuildSettings {guildId : GuildId} (sound : Sound engines tables)
    (written : tables.insertGuildSettings now guildId = .ok after) : Sound engines after := by
  obtain ⟨_, _, remaining⟩ := Checked.bind_ok written
  cases remaining
  refine ⟨sound.jobs, sound.rules, ?_⟩
  exact Table.forall_upsert (fun _ => rfl) sound.permissions (.tail _ (.head _)) sound.permissions

/-- A setting with a known permission keeps the database sound. -/
theorem Sound.upsertViewPermission {guildId : GuildId} {permission : String}
    (sound : Sound engines tables) (valid : permission ∈ Users.viewPermissions)
    (written : tables.upsertViewPermission now guildId permission = .ok after) :
    Sound engines after := by
  obtain ⟨_, _, remaining⟩ := Checked.bind_ok written
  cases remaining
  refine ⟨sound.jobs, sound.rules, Table.forall_upsert (by intro row; rfl) sound.permissions ?_ ?_⟩
  · exact valid
  · exact fun _ _ => valid

end Links

end OsuPlayerRole.Deployment
