import EspFirmware.ConfigRecord

/-!
# The configuration store keeps a record

When nothing fails, any sequence of configuration commands on a device that
was never configured leaves in the flash the record which the commands ask
for, and reading it yields that record.
-/

namespace EspFirmware

open Library DeviceConfig

/-! ## The record that is kept -/

namespace Command

/-- The record kept after a command: only a command that saves makes one. -/
def apply (command : Command) (held : Option Record) : Option Record :=
  if command.Saves (held.getD .blank) then
    some (command.update (held.getD .blank))
  else
    held

/-- The sector can hold the data of the command. -/
def Storable (command : Command) : Prop :=
  match command with
  | setData argument =>
      4 + 72 + (flashAlignLen argument.len).toNat ≤ sectorSize
  | setName _ | setRoom _ | setType _ => True

end Command

/-- The record kept after a sequence of commands. -/
def applyAll (held : Option Record) (commands : List Command) :
    Option Record :=
  commands.foldl (fun held command => command.apply held) held

/-- The chip after a sequence of commands, and all that was done. -/
structure ConfigRun where
  flash : Flash
  trace : List ConfigAction

/-- The commands as the code performs them, one after the other. -/
def performAll (flash : Flash) :
    List (Command × SetAnswers) → ConfigRun
  | [] => { flash := flash, trace := [] }
  | (command, answers) :: rest =>
      let call := command.perform flash answers
      let run := performAll call.flash rest
      { flash := run.flash, trace := call.trace ++ run.trace }

/-! ## Refinement -/

/-- A record that is kept is one which the sector can hold. -/
def FitsHeld (held : Option Record) : Prop :=
  (held.getD .blank).Fits

theorem blank_fits :
    Record.blank.Fits := by
  change 76 + (flashAlignLen 0).toNat ≤ sectorSize
  decide

/-- A storable command asks for a record which the sector can hold. -/
theorem Command.Storable.update_fits
    {command : Command} {record : Record}
    (storable : command.Storable)
    (fits : record.Fits) :
    (command.update record).Fits := by
  cases command with
  | setName name | setRoom room =>
      exact fits
  | setType type =>
      rw [Command.update]
      by_cases same : type = record.type
      · rw [if_pos same]
        exact fits
      · rw [if_neg same]
        exact defaultData_fits type
  | setData argument =>
      change
        76 + (flashAlignLen (UInt32.ofNat argument.bytes.length)).toNat ≤
          sectorSize
      rw [argument.length_bytes, UInt32.ofNat_toNat]
      exact storable

/-- A complete save of the record which a command asks for. -/
theorem holds_of_represents
    {flash : Flash} {answers : SaveAnswers}
    {conf : DeviceConfig} {record : Record}
    (represents : conf.Represents record)
    (fits : record.Fits)
    (complete : answers.Complete) :
    Holds (saveConfig flash answers conf).flash (some record) := by
  have fits' : conf.contents.Fits := by
    rw [represents.contents_eq]
    exact fits
  change Stores _ record.contents
  rw [← represents.contents_eq]
  exact represents.sound.stores_saveConfig fits' complete

/-- One command keeps the flash and the record in step, and saves when the record changes. -/
theorem perform_refines
    {flash : Flash} {held : Option Record}
    {command : Command} {answers : SetAnswers}
    (holds : Holds flash held)
    (fits : FitsHeld held)
    (storable : command.Storable)
    (served : answers.Served) :
    Holds (command.perform flash answers).flash (command.apply held) ∧
      saved (command.perform flash answers).trace =
        decide (command.Saves (held.getD .blank)) := by
  have start := represents_loadConfig holds answers.load
  rw [loaded_of_served served.load] at start
  have fits' := storable.update_fits fits
  have calls := performed command start
  generalize command.perform flash answers = call at calls
  cases calls with
  | unchanged type already same heap =>
      have kept : ¬ command.Saves (held.getD .blank) := by
        rw [already, same]
        exact fun changed => changed rfl
      rw [Command.apply, if_neg kept, decide_eq_false kept]
      exact ⟨holds, saved_of_heap heap⟩
  | withoutDefaults camera new full quiet =>
      have some := served.defaults
      rw [full] at some
      cases some
  | refused conf represents new ready incomplete quiet =>
      exact absurd served.save incomplete
  | stored conf represents complete text wrote =>
      have new : command.Saves (held.getD .blank) := by
        cases command with
        | setType type =>
            exact absurd rfl (text type)
        | setName name | setRoom room | setData argument =>
            trivial
      rw [Command.apply, if_pos new, decide_eq_true new]
      exact ⟨holds_of_represents represents fits' complete, wrote⟩
  | initialised conf type represents retyped new ready complete wrote =>
      rw [Command.apply, if_pos new, decide_eq_true new, saved_append, wrote,
        Bool.true_or]
      exact ⟨holds_of_represents represents fits' complete, rfl⟩

theorem Command.Storable.apply_fits
    {command : Command} {held : Option Record}
    (storable : command.Storable)
    (fits : FitsHeld held) :
    FitsHeld (command.apply held) := by
  rw [Command.apply]
  split
  · exact storable.update_fits fits
  · exact fits

/-- A kept record is not lost. -/
theorem Command.isSome_apply
    (command : Command) (held : Option Record) :
    (command.apply held).isSome =
      (held.isSome || decide (command.Saves (held.getD .blank))) := by
  rw [Command.apply]
  split
  · rename_i new
    simp [new]
  · rename_i kept
    simp [kept]

/-- The flash and the record stay in step over a whole run. -/
theorem performAll_refines
    {flash : Flash} {held : Option Record}
    {requests : List (Command × SetAnswers)}
    (holds : Holds flash held)
    (fits : FitsHeld held)
    (storable : ∀ request ∈ requests, request.1.Storable)
    (served : ∀ request ∈ requests, request.2.Served) :
    Holds (performAll flash requests).flash
        (applyAll held (requests.map Prod.fst)) ∧
      (applyAll held (requests.map Prod.fst)).isSome =
        (held.isSome || saved (performAll flash requests).trace) := by
  induction requests generalizing flash held with
  | nil =>
      simpa [performAll, applyAll] using holds
  | cons request rest induction =>
      rcases request with ⟨command, answers⟩
      have storable' := storable _ List.mem_cons_self
      have step :=
        perform_refines holds fits storable' (served _ List.mem_cons_self)
      have tail :=
        induction step.1 (storable'.apply_fits fits)
          (fun request member => storable request (.tail _ member))
          (fun request member => served request (.tail _ member))
      rw [Command.isSome_apply, ← step.2] at tail
      simpa [performAll, applyAll, Bool.or_assoc] using tail

/-- An erased sector holds no configuration. -/
theorem holds_none_of_erased
    {flash : Flash}
    (erased :
      readRange flash deviceConfigGuardAddr sectorSize =
        List.replicate sectorSize 0xFF) :
    Holds flash none := by
  have image :
      readRange flash deviceConfigGuardAddr sectorSize =
        wordBytes 0xFFFFFFFF ++ List.replicate 4092 0xFF := by
    rw [erased]
    rfl
  change alreadyExists flash true = false
  rw [alreadyExists_eq image]
  decide

/--
From an erased sector, after any commands whose calls all succeed, a
configuration exists exactly when one was saved, and the flash holds the
record which the commands ask for.
-/
theorem config_store_refines_record
    {flash : Flash}
    {requests : List (Command × SetAnswers)}
    (erased :
      readRange flash deviceConfigGuardAddr sectorSize =
        List.replicate sectorSize 0xFF)
    (storable : ∀ request ∈ requests, request.1.Storable)
    (served : ∀ request ∈ requests, request.2.Served) :
    (alreadyExists (performAll flash requests).flash true = true ↔
        saved (performAll flash requests).trace = true) ∧
      (saved (performAll flash requests).trace = true ↔
        (applyAll none (requests.map Prod.fst)).isSome = true) ∧
        ∀ record,
          applyAll none (requests.map Prod.fst) = some record →
            ∀ answers : ReadAnswers,
              answers.Succeed record.contents.dataLen →
                ∃ conf,
                  (readConfig (performAll flash requests).flash
                      answers).result = some conf ∧
                    conf.name = record.name ∧
                      conf.room = record.room ∧
                        conf.type = record.type.code ∧
                          conf.dataLen.toNat = record.data.length ∧
                            conf.payload = record.data := by
  have blank : FitsHeld none := blank_fits
  have refined :=
    performAll_refines (holds_none_of_erased erased) blank storable served
  generalize applyAll none (requests.map Prod.fst) = held at refined ⊢
  generalize performAll flash requests = run at refined ⊢
  rcases refined with ⟨holds, present⟩
  rw [Option.isSome_none, Bool.false_or] at present
  rw [← present]
  refine ⟨?_, Iff.rfl, ?_⟩
  · cases held with
    | none =>
        change alreadyExists run.flash true = false at holds
        rw [holds]
        simp
    | some record =>
        rw [holds.1]
        simp
  · rintro record rfl answers succeed
    rcases (stores_iff run.flash record.contents).mp holds with ⟨_, equal, _⟩
    have len : storedLen run.flash = record.contents.dataLen :=
      congrArg Contents.dataLen equal
    have read :=
      (contents_stored run.flash (answers.block.getD 0)).trans equal
    refine ⟨stored run.flash (answers.block.getD 0), ?_, ?_, ?_, ?_, ?_, ?_⟩
    · rw [result_readConfig, len, if_pos succeed]
    · exact congrArg Contents.name read
    · exact congrArg Contents.room read
    · exact congrArg Contents.type read
    · exact
        (congrArg (fun held => held.dataLen.toNat) read).trans
          record.toNat_dataLen
    · exact congrArg Contents.data read

/-- A device is named, becomes a camera, and changes its baud rate. -/
def configuredCamera : List (Command × SetAnswers) :=
  [(.setName ⟨[67, 97, 109], by decide⟩, silentCamera),
    (.setType .camera, silentCamera),
    (.setData
      { data := some ⟨9, [0, 75, 0, 0, 5, 4, 0, 0]⟩
        len := 8
        inside := by
          intro buffer present
          cases present
          decide
        addressable := by decide },
      silentCamera)]

theorem config_store_refines_record_camera :
    alreadyExists (performAll (fun _ => 0xFF) configuredCamera).flash true =
        true ∧
      ∃ conf,
        (readConfig (performAll (fun _ => 0xFF) configuredCamera).flash
            silentCamera.load.read).result = some conf ∧
          conf.name = textOf ⟨[67, 97, 109], by decide⟩ ∧
            conf.type = 4 ∧
              conf.payload = [0, 75, 0, 0, 5, 4, 0, 0] := by
  have storable : ∀ request ∈ configuredCamera, request.1.Storable := by
    intro request member
    simp only [configuredCamera, List.mem_cons, List.not_mem_nil, or_false]
      at member
    rcases member with rfl | rfl | rfl
    · trivial
    · trivial
    · change 4 + 72 + (flashAlignLen 8).toNat ≤ sectorSize
      decide
  have served : ∀ request ∈ configuredCamera, request.2.Served := by
    intro request member
    simp only [configuredCamera, List.mem_cons, List.not_mem_nil, or_false]
      at member
    rcases member with rfl | rfl | rfl <;> exact silentCamera_served
  have erased :
      readRange (fun _ => (0xFF : UInt8)) deviceConfigGuardAddr sectorSize =
        List.replicate sectorSize 0xFF := by
    apply List.ext_getElem
    · rw [length_readRange, List.length_replicate]
    · intro index _ _
      rw [getElem_readRange, List.getElem_replicate]
  rcases config_store_refines_record erased storable served with
    ⟨found, kept, reads⟩
  have some :
      applyAll none (configuredCamera.map Prod.fst) =
        some
          { name := textOf ⟨[67, 97, 109], by decide⟩
            room := .zeros 32
            type := .camera
            data := [0, 75, 0, 0, 5, 4, 0, 0]
            addressable := by decide } := by
    rfl
  have present :
      (applyAll none (configuredCamera.map Prod.fst)).isSome = true := by
    rw [some]
    rfl
  rcases reads _ some silentCamera.load.read
      ⟨rfl, rfl, rfl, rfl, fun _ => ⟨rfl, rfl⟩⟩ with
    ⟨conf, read, name, _, type, _, data⟩
  exact
    ⟨found.mpr (kept.mpr present), conf, read, name, type, data⟩

end EspFirmware
