import ProxyConfig.Proofs.Compile.Plan
import ProxyConfig.Proofs.Outbound.Uniqueness

/-!
# What the options change

A document depends on two things beside the rest of its model: whether it is for a mobile device,
which an option and a setting decide together, and the directory of local rule-sets.  One format
ignores both.  In the other one they show in three places and nowhere else.

Main results:

- `prepare_withMobile`: how the plan depends on the options and on the setting.
- `eraseOptional_toJson_varied`: the three places are all that the documents of such plans differ in.
- `compile_options_independent`: the same for whole compilations.
-/

namespace ProxyConfig

/-! ## Plans of one model -/

/-- The model with another choice of the setting for mobile devices. -/
def Model.withMobile (model : Model) (mobile : Bool) : Model :=
  { model with settings := { model.settings with mobileMode := mobile } }

/-- The plan with another setting, for another device and with another directory. -/
def Plan.varied (plan : Plan) (setting mobile : Bool) (localRuleSets : Option Files.RawPath) :
    Plan :=
  { plan with
    settings := { plan.settings with mobileMode := setting }
    mobile := mobile
    localRuleSets := localRuleSets }

/-- The options and the setting reach a plan as one flag and one directory. -/
theorem prepare_withMobile (model : Model) (setting : Bool) (options : CompileOptions) :
    Plan.prepare (model.withMobile setting) options =
      (Plan.prepare model {}).map fun plan =>
        plan.varied setting (options.mobile || setting) options.localRuleSets := by
  have hencodable : (model.withMobile setting).encodable = model.encodable := rfl
  rw [prepare_eq, prepare_eq, hencodable]
  split <;> rfl

/-! ## Erasing a part of a JSON value -/

namespace Json

/-- Change the fields of a name. -/
def mapField (name : String) (f : Json → Json) : Json → Json
  | .object fields => .object (fields.map fun p => if p.1 = name then (p.1, f p.2) else p)
  | v => v

/-- Change every item of an array. -/
def mapItems (f : Json → Json) : Json → Json
  | .array items => .array (items.map f)
  | v => v

/-- Drop the fields whose names do not meet a condition. -/
def keepFields (keep : String → Bool) : Json → Json
  | .object fields => .object (fields.filter fun p => keep p.1)
  | v => v

end Json

namespace SingBox

/-- The fields are those of an outbound that tests its members. -/
def isUrlTest (fields : List (String × Json)) : Bool :=
  match Json.find? "type" fields with
  | some (.string kind) => kind == "urltest"
  | _ => false

/-- An outbound without the time after which its tests stop. -/
def eraseIdleTimeout : Json → Json
  | .object fields =>
    if isUrlTest fields then Json.keepFields (· != "idle_timeout") (.object fields)
    else .object fields
  | v => v

/-- An address without what precedes its colon. -/
def eraseHost : Json → Json
  | .string address =>
    match Text.cutAt ':' address.toList with
    | some (_, port) => .string (String.ofList port)
    | none => .string address
  | v => v

/-- A document without the idle times of its tests, without the host of its controller, and with
nothing but the tags of its rule-sets. -/
def eraseOptional (document : Json) : Json :=
  let outbounds := Json.mapItems eraseIdleTimeout
  let route := Json.mapField "rule_set" (Json.mapItems (Json.keepFields (· == "tag")))
  let experimental := Json.mapField "clash_api" (Json.mapField "external_controller" eraseHost)
  ((document.mapField "outbounds" outbounds).mapField "route" route).mapField "experimental"
    experimental

/-- The device of a document shows in the idle times of its groups only. -/
theorem eraseIdleTimeout_toJson_ofGroup (mobile : Bool) (g : Group) :
    eraseIdleTimeout (OutboundEntry.ofGroup mobile g).toJson =
      eraseIdleTimeout (OutboundEntry.ofGroup false g).toJson := by
  cases mobile with
  | false => rfl
  | true =>
    unfold OutboundEntry.ofGroup
    cases g.kind with
    | select => rfl
    | urlTest url interval tolerance =>
      simp [OutboundEntry.toJson, eraseIdleTimeout, isUrlTest, Json.find?, Json.keepFields,
        Json.optionalString, Json.optional]

/-- Wherever a rule-set is found, its declaration has the tag of the rule-set. -/
theorem keepFields_tag_toJson (e : RuleSetEntry) :
    Json.keepFields (· == "tag") e.toJson = .object [("tag", .string e.label)] := by
  obtain ⟨label, place⟩ := e
  cases place <;> simp [RuleSetEntry.toJson, Json.keepFields]

/-- An address without its host is its port, since no host has a colon. -/
theorem eraseHost_controller (mobile : Bool) (port : String) :
    eraseHost (.string ((if mobile then loopbackHost else anyHost) ++ ":" ++ port)) =
      .string port := by
  have hcut : Text.cutAt ':' ((if mobile then loopbackHost else anyHost) ++ ":" ++ port).toList =
      some ((if mobile then loopbackHost else anyHost).toList, port.toList) := by
    rw [Text.cutAt_eq_some]
    refine ⟨by simp, ?_⟩
    cases mobile <;> decide
  simp only [eraseHost, hcut, String.ofList_toList]

/-- The erased parts of a document may be replaced. -/
theorem eraseOptional_toJson_update (d : Document) {outbounds : List OutboundEntry}
    {ruleSets : List RuleSetEntry} {host : String}
    (houtbounds : outbounds.map (fun o => eraseIdleTimeout o.toJson) =
      d.outbounds.map fun o => eraseIdleTimeout o.toJson)
    (hlabels : ruleSets.map RuleSetEntry.label = d.ruleSets.map RuleSetEntry.label)
    (hhost : eraseHost (.string (host ++ ":" ++ toString d.controllerPort)) =
      eraseHost (.string (d.controllerHost ++ ":" ++ toString d.controllerPort))) :
    eraseOptional
        { d with outbounds := outbounds, ruleSets := ruleSets, controllerHost := host }.toJson =
      eraseOptional d.toJson := by
  have htags : ∀ entries : List RuleSetEntry,
      Json.mapItems (Json.keepFields (· == "tag")) (.array (entries.map RuleSetEntry.toJson)) =
        .array ((entries.map RuleSetEntry.label).map fun label =>
          .object [("tag", .string label)]) := by
    intro entries
    simp [Json.mapItems, Function.comp_def, keepFields_tag_toJson]
  have hitems : ∀ entries : List OutboundEntry,
      Json.mapItems eraseIdleTimeout (.array (entries.map OutboundEntry.toJson)) =
        .array (entries.map fun o => eraseIdleTimeout o.toJson) := by
    intro entries
    simp [Json.mapItems]
  simp only [eraseOptional, Document.toJson, Json.mapField, List.map_cons, List.map_nil,
    String.reduceEq, reduceIte, htags, hitems, houtbounds, hlabels, hhost]

/-- The documents of plans that differ in the device and the directory differ in three places. -/
theorem eraseOptional_toJson_varied (plan : Plan) (setting mobile : Bool)
    (dir : Option Files.RawPath) :
    eraseOptional (Document.assemble (plan.varied setting mobile dir)).toJson =
      eraseOptional (Document.assemble plan).toJson := by
  refine eraseOptional_toJson_update (Document.assemble plan) ?_ ?_ ?_
  · have hgroups : ∀ g ∈ plan.groups,
        eraseIdleTimeout (OutboundEntry.ofGroup mobile g).toJson =
          eraseIdleTimeout (OutboundEntry.ofGroup plan.mobile g).toJson := by
      intro g _
      rw [eraseIdleTimeout_toJson_ofGroup mobile, eraseIdleTimeout_toJson_ofGroup plan.mobile]
    simpa [Document.assemble, Plan.varied] using hgroups
  · simp [Document.assemble, Plan.varied, Function.comp_def]
  · simp only [Document.assemble, eraseHost_controller]

end SingBox

/-! ## Whole compilations -/

namespace SingBox

/-- The document of a model as a JSON value. -/
def document (model : Model) (options : CompileOptions) : Except CompileError Json :=
  (Plan.prepare model options).map fun plan => (Document.assemble plan).toJson

/-- A compilation writes this value. -/
theorem compile_eq_map_document (model : Model) (options : CompileOptions) :
    compile .singBox model options = (document model options).map Json.pretty := by
  unfold compile document
  cases Plan.prepare model options <;> rfl

/-- For a mobile device the directory does not matter. -/
theorem assemble_varied_mobile (plan : Plan) (setting setting' : Bool)
    (dir dir' : Option Files.RawPath) :
    Document.assemble (plan.varied setting true dir) =
      Document.assemble (plan.varied setting' true dir') :=
  rfl

/-- The setting matters only together with the option. -/
theorem assemble_varied_setting (plan : Plan) (setting setting' mobile : Bool)
    (dir : Option Files.RawPath) :
    Document.assemble (plan.varied setting mobile dir) =
      Document.assemble (plan.varied setting' mobile dir) :=
  rfl

end SingBox

/-- The device and the directory of a document show where they should, and nowhere else.

Let the setting for mobile devices and the options of two compilations of one model be arbitrary.
The Clash results are equal.  The sing-box results are the texts of two JSON documents.  Both are
errors, or the documents are equal but for the idle times of the tests, the host of the controller,
and all but the tags of the rule-sets.  They are fully equal when either both or neither are for a
mobile device and, unless both are, the directories are the same. -/
theorem compile_options_independent (model : Model) (setting setting' : Bool)
    (options options' : CompileOptions) :
    compile .clash (model.withMobile setting) options =
      compile .clash (model.withMobile setting') options' ∧
    (compile .singBox (model.withMobile setting) options =
        (SingBox.document (model.withMobile setting) options).map Json.pretty ∧
      compile .singBox (model.withMobile setting') options' =
        (SingBox.document (model.withMobile setting') options').map Json.pretty ∧
      (SingBox.document (model.withMobile setting) options).map SingBox.eraseOptional =
        (SingBox.document (model.withMobile setting') options').map SingBox.eraseOptional) ∧
    ((options.mobile || setting) = (options'.mobile || setting') →
      (options.mobile || setting) = true ∨ options.localRuleSets = options'.localRuleSets →
        compile .singBox (model.withMobile setting) options =
          compile .singBox (model.withMobile setting') options') := by
  refine ⟨?_, ⟨SingBox.compile_eq_map_document _ _, SingBox.compile_eq_map_document _ _, ?_⟩, ?_⟩
  · unfold compile
    rw [prepare_withMobile, prepare_withMobile]
    cases Plan.prepare model {} <;> rfl
  · unfold SingBox.document
    rw [prepare_withMobile, prepare_withMobile]
    cases Plan.prepare model {} with
    | error e => rfl
    | ok plan => simp only [Except.map, SingBox.eraseOptional_toJson_varied]
  · intro hmobile hdir
    unfold compile
    rw [prepare_withMobile, prepare_withMobile, ← hmobile]
    -- What remains of the difference is the setting, and the directory on a mobile device.
    cases Plan.prepare model {} with
    | error e => rfl
    | ok plan =>
      rcases hdir with htrue | hdir
      · simp only [htrue, Except.map, Plan.render,
          SingBox.assemble_varied_mobile plan setting setting' _ options'.localRuleSets]
      · simp only [hdir, Except.map, Plan.render,
          SingBox.assemble_varied_setting plan setting setting']

/-- The setting and the option for mobile devices have the same effect on the sample, with a
directory of local rule-sets and without one. -/
theorem compile_options_independent_sample :
    ∃ text, compile .singBox (sampleConfig.model.withMobile true) {} = .ok text ∧
      compile .singBox (sampleConfig.model.withMobile false)
        { mobile := true, localRuleSets := some (.ofText "rules") } = .ok text := by
  let model := sampleConfig.model.withMobile true
  have hsetting : compile .singBox model {} = .ok ((Plan.ofModel model {}).render .singBox) :=
    compile_eq_ok_iff_render.2 ⟨by decide, rfl⟩
  have hsame := (compile_options_independent sampleConfig.model true false {}
    { mobile := true, localRuleSets := some (.ofText "rules") }).2.2 rfl (.inl rfl)
  exact ⟨_, hsetting, hsame ▸ hsetting⟩

end ProxyConfig
