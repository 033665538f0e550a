import AiotCloud.OtaHistory

/-!
# Kafka downlinks

Three calls send something to a Kafka-push device: `triggerDeviceAction` a command,
`pushConfigSync` a nudge, `triggerUpdate` an instruction. The command goes to the
command topic of the stored Kafka config; the other two always go to the shared
gateway inbox. The row changes by config edits and by the first boot (`configStep`).

1. `kafka_downlinks`: in every state reached, where each of the three goes, against
   the command topic of the boot response; they go to the topic the response names
   exactly when it names the inbox or none.
2. `namesInbox_iff_meets`: that is so all along a run exactly when no edit of the run
   names another topic.
-/

namespace AiotCloud

open Interleave

/-! ## Edits and boots -/

inductive ConfigEvent where
  | update (dto : UpdateDeviceConfigDto)
  | boot

/-- The row after an edit by its owner, or after a boot. -/
def configStep (env : ApiConfig) (template : Option DeviceTemplateEntity) (row : DeviceEntity) :
    ConfigEvent → DeviceEntity
  | .update dto => ((updateDeviceConfig dto (some row)).2.1.map (Persist.commit row)).getD row
  | .boot => rowAfterBoot env template row

/-! ## Where things go -/

/-- What the effects send to the device: commands and nudges, not the records that
announce a command. -/
def downlinksOf (effects : List Effect) : List Downlink :=
  effects.filterMap fun
    | .kafka topic (.command ..) _ => some (.kafka topic)
    | .kafka topic (.configSync ..) _ => some (.kafka topic)
    | .mqtt topic _ => some (.mqtt topic)
    | _ => none

/-- Where the instructions of a `triggerUpdate` go. -/
def otaDownlinksOf (env : ApiConfig) (call : TriggerCall) (w : OtaWorld) : List Downlink :=
  (((triggerUpdate env call).exec OtaWorld.act w).1.published.drop w.published.length).map
    (·.downlink)

/-- The topic a boot response tells a gateway to listen on. -/
def namedTopic (boot : DeviceConfigDto) : String :=
  (boot.kafka.bind (·.commandTopic.join)).getD kafkaGatewayCommandsTopic

/-- Everything sent to the device goes to the topic. -/
structure SentTo (topic : String) (env : ApiConfig) (template : Option DeviceTemplateEntity)
    (device : DeviceEntity) : Prop where
  action : ∀ brokers now dto, ActionAccepted template dto → ∀ downlink ∈
    downlinksOf (triggerDeviceAction env brokers now template dto (some device)).2,
      downlink = .kafka topic
  configSync : ∀ brokers now, ∀ downlink ∈ downlinksOf (pushConfigSync brokers now (some device)).2,
    downlink = .kafka topic
  otaUpdate : ∀ call w, w.device = device → ∀ downlink ∈ otaDownlinksOf env call w,
    downlink = .kafka topic

theorem downlinksOf_announceDispatch (brokers : Brokers) (now : Date) (device : DeviceEntity)
    (dto : TriggerDeviceActionDto) :
    downlinksOf (announceDispatch brokers now device dto) = [] := by
  unfold announceDispatch downlinksOf
  split
  · split <;> rfl
  · rfl

theorem downlinksOf_triggerDeviceAction (env : ApiConfig) (brokers : Brokers) (now : Date)
    {template : Option DeviceTemplateEntity} {dto : TriggerDeviceActionDto}
    (accepted : ActionAccepted template dto) {device : DeviceEntity}
    (push : device.pushChannel = .kafka) :
    downlinksOf (triggerDeviceAction env brokers now template dto (some device)).2 =
      if kafkaSend brokers.producer brokers.command then [.kafka (commandKafkaTopic device)]
      else [] := by
  rw [triggerDeviceAction_of_accepted accepted (Or.inr push)]
  unfold dispatchAction
  split
  · have announced := downlinksOf_announceDispatch brokers now device dto
    unfold downlinksOf at announced ⊢
    simp [push, announced]
  · rfl

theorem downlinksOf_pushConfigSync (brokers : Brokers) (now : Date) {device : DeviceEntity}
    (push : device.pushChannel = .kafka) :
    downlinksOf (pushConfigSync brokers now (some device)).2 =
      if kafkaSend brokers.producer brokers.command then [.kafka kafkaGatewayCommandsTopic]
      else [] := by
  simp only [pushConfigSync, push, ne_eq, not_true_eq_false, if_false]
  split <;> rfl

theorem sendUpdate_downlink {env : ApiConfig} {call : TriggerCall} {device : DeviceEntity}
    {firmware : FirmwareEntity} {instruction : OtaInstruction}
    (h : sendUpdate env call device firmware = .ok instruction) :
    instruction.downlink = otaDownlink device := by
  unfold sendUpdate at h
  cases hdownlink : otaDownlink device with
  | kafka topic =>
    simp only [hdownlink] at h
    split at h
    · rw [← Except.ok.inj h]
    · exact absurd h (by simp)
  | mqtt topic =>
    simp only [hdownlink] at h
    split at h
    · exact absurd h (by simp)
    · split at h
      · rw [← Except.ok.inj h]
      · exact absurd h (by simp)

theorem startsUpdate_downlink {env : ApiConfig} {call : TriggerCall} {w : OtaWorld}
    {planned : FirmwareEntity × OtaInstruction} (h : startsUpdate env call w = some planned) :
    planned.2.downlink = otaDownlink w.device := by
  obtain ⟨_, hplan⟩ := startsUpdate_eq_some h
  unfold planUpdate at hplan
  cases hcheck : checkUpdate w.device (findFirmware w call.dto.firmwareId) with
  | error failure => simp [hcheck] at hplan
  | ok firmware =>
    cases hsend : sendUpdate env call w.device firmware with
    | error failure => simp [hcheck, hsend] at hplan
    | ok instruction =>
      simp only [hcheck, hsend, Except.ok.injEq] at hplan
      rw [← hplan]
      exact sendUpdate_downlink hsend

theorem otaDownlinksOf_eq (env : ApiConfig) (call : TriggerCall) {w : OtaWorld}
    (push : w.device.pushChannel = .kafka) :
    otaDownlinksOf env call w =
      if startsUpdate env call w = none then [] else [.kafka kafkaGatewayCommandsTopic] := by
  unfold otaDownlinksOf
  rw [exec_triggerUpdate]
  cases hstarts : startsUpdate env call w with
  | none => simp
  | some planned =>
    have hdownlink := startsUpdate_downlink hstarts
    simp [hdownlink, otaDownlink, push]

theorem defaultKafkaConfig_namesInbox (env : ApiConfig) (device : DeviceEntity)
    (template : Option DeviceTemplateEntity) :
    (defaultKafkaConfig env device template).commandTopic.join.getD kafkaGatewayCommandsTopic =
      kafkaGatewayCommandsTopic := by
  unfold defaultKafkaConfig
  cases isGateway template <;> rfl

/-- The boot response names the topic that commands go to. -/
theorem namedTopic_eq (env : ApiConfig) (template : Option DeviceTemplateEntity)
    {device : DeviceEntity} (push : device.pushChannel = .kafka) {boot : DeviceConfigDto}
    (hboot : (getBootConfig env template (some device)).1.data = some boot) :
    namedTopic boot = commandKafkaTopic device ∧
      namedTopic boot =
        (bootKafkaConfig env template device).commandTopic.join.getD kafkaGatewayCommandsTopic := by
  have hkafka : boot.kafka = some (bootKafkaConfig env template device) := by
    simp only [getBootConfig, push, if_true, ResponseCore.ok, Option.some_inj] at hboot
    rw [← hboot]
    rfl
  have named : namedTopic boot =
      (bootKafkaConfig env template device).commandTopic.join.getD kafkaGatewayCommandsTopic := by
    simp [namedTopic, hkafka]
  refine ⟨?_, named⟩
  rw [named, bootKafkaConfig_eq]
  unfold commandKafkaTopic
  cases device.kafkaConfig with
  | some kafka => rfl
  | none =>
    -- nothing stored: the default names the inbox on a gateway and nothing elsewhere
    exact defaultKafkaConfig_namesInbox env device template

/-- In every state that edits and boots reach, with Kafka push: a command goes to the
topic the boot response names, or to the inbox if it names none; a nudge and an update
instruction go to the inbox. So everything goes to the named topic exactly when that
is the inbox. -/
theorem kafka_downlinks (env : ApiConfig) (template : Option DeviceTemplateEntity)
    (row : DeviceEntity) (es : List ConfigEvent) {device : DeviceEntity}
    (reached : Run.exec (configStep env template) row es = device)
    (push : device.pushChannel = .kafka) {boot : DeviceConfigDto}
    (hboot : (getBootConfig env template (some device)).1.data = some boot) :
    (∀ brokers now dto, ActionAccepted template dto →
      downlinksOf (triggerDeviceAction env brokers now template dto (some device)).2 =
        if kafkaSend brokers.producer brokers.command then [.kafka (namedTopic boot)] else []) ∧
    (∀ brokers now, downlinksOf (pushConfigSync brokers now (some device)).2 =
      if kafkaSend brokers.producer brokers.command then [.kafka kafkaGatewayCommandsTopic]
      else []) ∧
    (∀ call w, w.device = device → otaDownlinksOf env call w =
      if startsUpdate env call w = none then [] else [.kafka kafkaGatewayCommandsTopic]) ∧
    (SentTo (namedTopic boot) env template device ↔
      namedTopic boot = kafkaGatewayCommandsTopic) := by
  obtain ⟨hnamed, _⟩ := namedTopic_eq env template push hboot
  have action : ∀ brokers now dto, ActionAccepted template dto →
      downlinksOf (triggerDeviceAction env brokers now template dto (some device)).2 =
        if kafkaSend brokers.producer brokers.command then [.kafka (namedTopic boot)] else [] := by
    intro brokers now dto accepted
    rw [downlinksOf_triggerDeviceAction env brokers now accepted push, hnamed]
  have sync : ∀ brokers now, downlinksOf (pushConfigSync brokers now (some device)).2 =
      if kafkaSend brokers.producer brokers.command then [.kafka kafkaGatewayCommandsTopic]
      else [] := fun brokers now => downlinksOf_pushConfigSync brokers now push
  have ota : ∀ call w, w.device = device → otaDownlinksOf env call w =
      if startsUpdate env call w = none then [] else [.kafka kafkaGatewayCommandsTopic] := by
    rintro call w rfl
    exact otaDownlinksOf_eq env call push
  refine ⟨action, sync, ota, fun sent => ?_, fun hinbox => ⟨?_, ?_, ?_⟩⟩
  · have healthy := sent.configSync healthyBrokers 0 (.kafka kafkaGatewayCommandsTopic) (by
      rw [sync]
      exact List.mem_singleton.mpr rfl)
    exact (Downlink.kafka.inj healthy).symm
  · intro brokers now dto accepted downlink hmem
    rw [action brokers now dto accepted] at hmem
    split at hmem
    · exact List.mem_singleton.mp hmem
    · exact absurd hmem List.not_mem_nil
  · intro brokers now downlink hmem
    rw [sync] at hmem
    split at hmem
    · rw [hinbox]
      exact List.mem_singleton.mp hmem
    · exact absurd hmem List.not_mem_nil
  · intro call w hw downlink hmem
    rw [ota call w hw] at hmem
    split at hmem
    · exact absurd hmem List.not_mem_nil
    · rw [hinbox]
      exact List.mem_singleton.mp hmem

/-! ### A gateway with a topic of its own -/

def gatewayTemplate : DeviceTemplateEntity :=
  { relayTemplate with name := "Gateway", type := .gateway }

def plainGateway : DeviceEntity := { plainRelay with deviceId := "gw-1", pushChannel := .kafka }

def ownTopic : UpdateDeviceConfigDto :=
  { kafka := some (some
      { brokers := "localhost:9092", topics := [], commandTopic := some (some "gw-1.commands")
        clientId := none, username := none, password := none }) }

def ownTopicBoot : DeviceConfigDto :=
  bootConfig defaultEnv (applyConfigDto ownTopic plainGateway) (some gatewayTemplate)
    (applyConfigDto ownTopic plainGateway).kafkaConfig

/-- After an edit that gives it its own command topic, the gateway is told that topic,
and a nudge still goes to the inbox. -/
theorem ownTopic_not_sentTo :
    Run.exec (configStep defaultEnv (some gatewayTemplate)) plainGateway [.update ownTopic] =
        applyConfigDto ownTopic plainGateway ∧
      (getBootConfig defaultEnv (some gatewayTemplate)
        (some (applyConfigDto ownTopic plainGateway))).1.data = some ownTopicBoot ∧
      ¬ SentTo (namedTopic ownTopicBoot) defaultEnv (some gatewayTemplate)
        (applyConfigDto ownTopic plainGateway) := by
  refine ⟨rfl, rfl, fun sent => ?_⟩
  have nudge := sent.configSync healthyBrokers 0 (.kafka kafkaGatewayCommandsTopic) (by decide)
  exact absurd nudge (by decide)

theorem kafka_downlinks_ownTopic :
    SentTo (namedTopic ownTopicBoot) defaultEnv (some gatewayTemplate)
        (applyConfigDto ownTopic plainGateway) ↔
      namedTopic ownTopicBoot = kafkaGatewayCommandsTopic :=
  (kafka_downlinks defaultEnv (some gatewayTemplate) plainGateway [.update ownTopic] rfl rfl
    rfl).2.2.2

/-! ## All along a run -/

/-- The boot response of the row names the inbox, or no topic. -/
def NamesInbox (env : ApiConfig) (template : Option DeviceTemplateEntity) (row : DeviceEntity) :
    Prop :=
  (bootKafkaConfig env template row).commandTopic.join.getD kafkaGatewayCommandsTopic =
    kafkaGatewayCommandsTopic

/-- An edit that names no other topic: it leaves the Kafka config, removes it, or gives
one without a command topic or with the inbox. -/
def ConfigEvent.KeepsInbox : ConfigEvent → Prop
  | .update dto => ∀ kafka, dto.kafka = some (some kafka) →
    kafka.commandTopic.join.getD kafkaGatewayCommandsTopic = kafkaGatewayCommandsTopic
  | .boot => True

theorem namesInbox_iff_namedTopic {env : ApiConfig} {template : Option DeviceTemplateEntity}
    {device : DeviceEntity} (push : device.pushChannel = .kafka) {boot : DeviceConfigDto}
    (hboot : (getBootConfig env template (some device)).1.data = some boot) :
    NamesInbox env template device ↔ namedTopic boot = kafkaGatewayCommandsTopic := by
  rw [(namedTopic_eq env template push hboot).2]
  rfl

theorem namesInbox_step {env : ApiConfig} {template : Option DeviceTemplateEntity}
    {row : DeviceEntity} (h : NamesInbox env template row) (e : ConfigEvent) :
    NamesInbox env template (configStep env template row e) ↔ e.KeepsInbox := by
  cases e with
  | boot =>
    unfold NamesInbox configStep
    rw [bootKafkaConfig_saved]
    exact ⟨fun _ => trivial, fun _ => h⟩
  | update dto =>
    have hrow : configStep env template row (.update dto) = applyConfigDto dto row := rfl
    unfold NamesInbox at h ⊢
    rw [bootKafkaConfig_eq] at h
    rw [hrow, bootKafkaConfig_eq, applyConfigDto_kafkaConfig]
    cases hkafka : dto.kafka with
    | none =>
      refine ⟨fun _ kafka hk => absurd (hkafka.symm.trans hk) (by simp), fun _ => ?_⟩
      cases hstored : row.kafkaConfig with
      | none => exact defaultKafkaConfig_namesInbox env _ template
      | some kafka =>
        rw [hstored] at h
        exact h
    | some given =>
      cases given with
      | none =>
        refine ⟨fun _ kafka hk => absurd (hkafka.symm.trans hk) (by simp), fun _ => ?_⟩
        exact defaultKafkaConfig_namesInbox env _ template
      | some kafka =>
        constructor
        · intro hinbox kafka' hk
          obtain rfl : kafka = kafka' := by simpa [hkafka] using hk
          exact hinbox
        · intro keeps
          exact keeps kafka hkafka

/-- From a row whose boot response names the inbox, it does so in every state of the
run exactly when no edit of the run names another topic. -/
theorem namesInbox_iff_meets {env : ApiConfig} {template : Option DeviceTemplateEntity}
    {row : DeviceEntity} (h : NamesInbox env template row) (es : List ConfigEvent) :
    (∀ pre, pre <+: es →
      NamesInbox env template (Run.exec (configStep env template) row pre)) ↔
      Run.Meets (configStep env template) (fun _ e => e.KeepsInbox) row es := by
  have keeps : ∀ row (e : ConfigEvent), NamesInbox env template row → e.KeepsInbox →
      NamesInbox env template (configStep env template row e) :=
    fun _ e h => (namesInbox_step h e).mpr
  have needs : ∀ row (e : ConfigEvent), NamesInbox env template row →
      NamesInbox env template (configStep env template row e) → e.KeepsInbox :=
    fun _ e h => (namesInbox_step h e).mp
  exact Run.always_iff_meets (fun _ h => h) keeps needs h es

/-- A device without a stored Kafka config starts so. -/
theorem namesInbox_of_none (env : ApiConfig) (template : Option DeviceTemplateEntity)
    {row : DeviceEntity} (h : row.kafkaConfig = none) : NamesInbox env template row := by
  unfold NamesInbox
  rw [bootKafkaConfig_eq, h]
  exact defaultKafkaConfig_namesInbox env row template

end AiotCloud
