import Trifold.Coordinator.Basic
import Trifold.Proofs.Coordinator.Settings
import Trifold.Proofs.Delivery.Broadcast
import Trifold.Proofs.Fanout.Isolated

namespace Trifold
open Value

-- An environment is a plain record of texts.
def Platform.IsEnvironment (value : Value) : Prop := value.isPlain = true ∧ ∀ entry ∈ value.own, ∃ s, entry.2 = .text s

namespace Platform

variable {environment : Value} {host : Host}

theorem IsEnvironment.read (texts : IsEnvironment environment) (key : String) (free : inherited key = .absent) :
    environment.get key = .absent ∨ ∃ s, environment.get key = .text s := by
  obtain ⟨plain,each⟩ := texts
  cases environment with
  | record bare fields =>
    unfold Value.get
    cases found : Fields.get? key fields with
    | none =>
      left
      rw [free,ite_self]
      rfl
    | some held => exact .inr (each _ (Fields.mem_of_get? found))
  | ancestor =>
    left
    unfold Value.get
    rw [free,if_neg]
    rintro rfl
    cases free
  | _ => cases plain

theorem detect_ends (texts : IsEnvironment environment) : Ask.Ends host (detect environment) := by
  have set (s : String) : Ask.Ends host (setting (.text s)) := .pure _
  have kept : environment.given (.object []) = environment := by
    obtain ⟨plain,-⟩ := texts
    cases environment <;> first | rfl | cases plain
  have forced : Ask.Ends host (forced? environment) := by
    refine .after (Event.fetch_plain texts.1 forcedKey) ?_
    rcases texts.read forcedKey rfl with unset | ⟨s,given⟩
    · rw [unset]
      exact .pure trivial
    · rw [given]
      exact (set s).map
  have flagged : Ask.Ends host (isWebOn environment) := by
    unfold isWebOn
    rcases texts.read webKey rfl with unset | ⟨s,given⟩
    · rw [unset]
      exact .pure _
    · rw [given]
      exact (set s).map
  unfold detect
  rw [kept]
  refine forced.bind fun found => ?_
  cases found with
  | some platform => exact .pure trivial
  | none =>
    refine flagged.bind fun web => ?_
    cases web <;> exact .pure trivial

end Platform

namespace Coordinator

-- The names of the failures that a setting answers for.
def blamed : List String := ["invalid_platform", "unknown_signal", "invalid_type_format"]

-- Nothing a coordinator does comes back to its settings. Every tree is shown once on each platform that is set, and no
-- event fails for the platform or the type of its signal, wherever it goes.
structure Settled (coordinator : Coordinator) : Prop where
  rendered : ∀ host value config, ∃ shows, (coordinator.render host value config).outcome = .ok shows ∧
    Fields.keys shows = coordinator.settings.platforms.map Platform.name ∧
    ∀ entry ∈ shows, entry.2 ≠ .error .invalidPlatform
  dispatched : ∀ host stamp type data target sent, coordinator.dispatch host stamp type data target = .ok sent →
    ∀ error, sent.outcome = .error error → error.name ∉ blamed
  broadcasted : ∀ host stamp type data targets sent, coordinator.broadcast host stamp type data targets = .ok sent →
    ∀ error, sent.outcome = .error error → error.name ∉ blamed
  published : ∀ {κ : Type} [DecidableEq κ] host (react : Bus.React κ) stamp type data bus sent,
    coordinator.publish host react stamp type data bus = .ok sent →
    ∀ error, sent.outcome = .error error → error.name ∉ blamed
  answered : ∀ host stamp (type : String) data, data.isPlain = true →
    (∀ target, ∃ sent, coordinator.dispatch host stamp (.text type) data target = .ok sent) ∧
    (∀ targets, ∃ sent, coordinator.broadcast host stamp (.text type) data targets = .ok sent) ∧
    ∀ {κ : Type} [DecidableEq κ] (react : Bus.React κ) bus,
      ∃ sent, coordinator.publish host react stamp (.text type) data bus = .ok sent

variable {coordinator : Coordinator} {host : Host}

def parts (host : Host) : Platform → Fanout.Parts
  | .terminal => ⟨.terminal,fun value _ => Terminal.backend.converted host id value,none⟩
  | .desktop => ⟨.desktop,fun value _ => Desktop.backend.converted host id value,some fun state => state.putRoot .null⟩
  | .web => ⟨.web,fun value _ => Web.backend.converted host (fun markup => .text markup.written) value,none⟩

theorem request_parts (host : Host) (value config : Value) :
    request host value config = Fanout.Request.of (parts host) value config := by
  have same : Renderer.builtin host = fun platform => (parts host platform).renderer := by
    funext platform
    cases platform <;> rfl
  rw [request,Fanout.Request.of,same]

theorem names_texts (coordinator : Coordinator) :
    coordinator.names = (coordinator.settings.platforms.map Platform.name).map Fanout.Name.ofText := by
  rw [names,List.map_map]
  refine List.map_congr_left fun platform _ => ?_
  exact congrArg (Fanout.Name.mk (some platform.name)) (Platform.ofName?_name platform).symm

theorem name_ordinary (platform : Platform) : platform.name ≠ baseName ∧ Fields.position? platform.name = none := by
  cases platform <;> decide

theorem render_settled (once : coordinator.settings.platforms.Nodup) (host : Host) (value config : Value) :
    ∃ shows, (coordinator.render host value config).outcome = .ok shows ∧
      Fields.keys shows = coordinator.settings.platforms.map Platform.name ∧
      ∀ entry ∈ shows, entry.2 ≠ .error .invalidPlatform := by
  let names := coordinator.settings.platforms.map Platform.name
  let request := Fanout.Request.of (parts host) value config
  have each := Fanout.answer_answers (parts host) value config
  have ordinary : ∀ name ∈ names, name ≠ baseName ∧ Fields.position? name = none :=
    List.forall_mem_map.mpr fun platform _ => name_ordinary platform
  have ended := Fanout.renderOn_named (fun name there => (ordinary name there).1) fun name _ => (each name).1
  have keys : Fields.keys (names.map fun name => (name,request.answer (.ofText name))) = names := by
    rw [Fields.keys,List.map_map]
    exact List.map_id' names
  have shows : Fields.ofEntries (names.map fun name => (name,request.answer (.ofText name))) =
      names.map fun name => (name,request.answer (.ofText name)) := by
    refine Fields.putAll_names (List.forall_mem_map.mpr fun name there => (ordinary name there).2) ?_
    rw [keys]
    refine once.map fun platform platform' same => ?_
    exact Option.some.inj ((Platform.ofName?_name platform).symm.trans (same ▸ Platform.ofName?_name platform'))
  refine ⟨_,?_,keys,?_⟩
  · rw [render,request_parts,names_texts,ended]
    exact congrArg Except.ok shows
  · refine List.forall_mem_map.mpr fun name there unknown => ?_
    obtain ⟨platform,_,rfl⟩ := List.mem_map.mp there
    have answers := (each platform.name).2
    dsimp only at unknown
    rw [unknown] at answers
    cases answers with
    | unknown nowhere => cases nowhere.symm.trans (Platform.ofName?_name platform)

theorem event_free {error : EventError} (unsigned : ∀ reason, error ≠ .signal reason) : error.name ∉ blamed := by
  cases error with
  | signal reason => exact absurd rfl (unsigned reason)
  | payload error => cases error <;> decide
  | _ => decide

theorem delivery_free (reason : Delivery.Reason) : (DispatchError.delivery reason).name ∉ blamed := by
  cases reason <;> decide

theorem signal_placed (segments : Signal.IsDomain coordinator.settings.domain) {stamp : Stamp} {type data : Value}
    {unbuilt : Dispatch.Unbuilt} (ended : Dispatch.signal stamp (coordinator.incoming type data) host = .ok (.error unbuilt)) :
    unbuilt.toDispatch.name ∉ blamed ∧ unbuilt.toBroadcast.name ∉ blamed := by
  have known : Platform.isNamed (coordinator.incoming type data).platform = true :=
    congrArg Option.isSome (Platform.ofName?_name coordinator.platform)
  unfold Dispatch.signal at ended
  rw [known] at ended
  obtain ⟨outcome,told,ended⟩ := Ask.ok_of_bind ended
  cases outcome with
  | ok signal => cases ended
  | error error =>
    cases ended
    have free := event_free fun reason same => Event.toSignal_placed rfl rfl segments told reason (congrArg Except.error same)
    exact ⟨free,free⟩

theorem answer_cases {α : Type} {question : Except Fault (Except Dispatch.Unbuilt Signal)} {refuse : Dispatch.Unbuilt → α}
    {send : Signal → α} {sent : α} (ended : (do match ← question with
      | .error unbuilt => return refuse unbuilt
      | .ok signal => return send signal : Except Fault α) = .ok sent) :
    (∃ unbuilt, question = .ok (.error unbuilt) ∧ sent = refuse unbuilt) ∨ ∃ signal, sent = send signal := by
  cases question with
  | error fault => cases ended
  | ok made =>
    cases made with
    | error unbuilt =>
      cases ended
      exact .inl ⟨unbuilt,rfl,rfl⟩
    | ok signal =>
      cases ended
      exact .inr ⟨signal,rfl⟩

section

variable {stamp : Stamp} {type data : Value} {error : DispatchError} (segments : Signal.IsDomain coordinator.settings.domain)
include segments

theorem dispatch_placed {target : Value} {sent : Dispatch.Dispatched DispatchError}
    (ended : coordinator.dispatch host stamp type data target = .ok sent) (failed : sent.outcome = .error error) :
    error.name ∉ blamed := by
  rcases answer_cases ended with ⟨unbuilt,told,rfl⟩ | ⟨signal,rfl⟩
  · cases failed
    exact (signal_placed segments told).1
  · unfold Dispatch.sentToOne at failed
    dsimp only at failed
    split at failed
    · cases failed
    · cases failed
      exact delivery_free _

theorem broadcast_placed {targets : List Value} {sent : Dispatch.Dispatched BroadcastError}
    (ended : coordinator.broadcast host stamp type data targets = .ok sent) {error : BroadcastError}
    (failed : sent.outcome = .error error) : error.name ∉ blamed := by
  rcases answer_cases ended with ⟨unbuilt,told,rfl⟩ | ⟨signal,rfl⟩
  · cases failed
    exact (signal_placed segments told).2
  · obtain ⟨missed,rfl,-⟩ := (Dispatch.sent_targets host targets signal).fails error failed
    exact (by decide : "dispatch_failed" ∉ blamed)

theorem publish_placed {κ : Type} [DecidableEq κ] {react : Bus.React κ} {bus : Bus κ} {sent : Published κ}
    (ended : coordinator.publish host react stamp type data bus = .ok sent) (failed : sent.outcome = .error error) :
    error.name ∉ blamed := by
  rcases answer_cases ended with ⟨unbuilt,told,rfl⟩ | ⟨signal,rfl⟩
  · cases failed
    exact (signal_placed segments told).1
  · unfold heard at failed
    dsimp only at failed
    split at failed
    · cases failed
    · cases failed
      exact delivery_free _

end

theorem declared_answered (coordinator : Coordinator) (host : Host) (stamp : Stamp) (type : String) {data : Value}
    (plain : data.isPlain = true) : (∀ target, ∃ sent, coordinator.dispatch host stamp (.text type) data target = .ok sent) ∧
      (∀ targets, ∃ sent, coordinator.broadcast host stamp (.text type) data targets = .ok sent) ∧
      ∀ {κ : Type} [DecidableEq κ] (react : Bus.React κ) bus,
        ∃ sent, coordinator.publish host react stamp (.text type) data bus = .ok sent := by
  have declared : Dispatch.Declared (coordinator.incoming (.text type) data) :=
    ⟨⟨_,rfl⟩,⟨_,rfl⟩,plain,rfl,⟨_,rfl⟩,.inl rfl⟩
  obtain ⟨made,told,-⟩ := @Dispatch.signal_ends _ host declared stamp
  unfold dispatch broadcast publish Dispatch.toOne Dispatch.toMany
  rw [told]
  cases made with
  | error unbuilt => exact ⟨fun _ => ⟨_,rfl⟩,fun _ => ⟨_,rfl⟩,fun _ _ => ⟨_,rfl⟩⟩
  | ok signal => exact ⟨fun _ => ⟨_,rfl⟩,fun _ => ⟨_,rfl⟩,fun _ _ => ⟨_,rfl⟩⟩

theorem settled_of_accepted {config : Value} (accepted : Settings.Accepted config coordinator.settings) :
    Settled coordinator := by
  obtain ⟨-,⟨mentioned,-,choice⟩,domain⟩ := accepted
  have segments := domain.isDomain
  exact {
    rendered := render_settled choice.once
    dispatched := fun _ _ _ _ _ _ ended _ failed => dispatch_placed segments ended failed
    broadcasted := fun _ _ _ _ _ _ ended _ failed => broadcast_placed segments ended failed
    published := fun _ _ _ _ _ _ _ ended _ failed => publish_placed segments ended failed
    answered := fun host stamp type _ plain => declared_answered coordinator host stamp type plain }

-- A configuration is refused for the first setting that nothing fits, or accepted for good.
theorem start_settled {own config : Value} (there : config ≠ .null)
    (written : ∀ key ∈ ["timeoutMs", "platforms", "namespace"], Settings.Written (Settings.setting config key))
    (texts : Platform.IsEnvironment ((Settings.setting config "env").orElse own)) (host : Host) :
    (∃ fault, Settings.resolve own config host = .error fault ∧ start own config host = .error fault ∧
      fault.code? = some "UI_INVALID_CONFIG" ∧
      ∃ problem, fault = .badSetting problem ∧ Settings.Unfit config problem.field) ∨
    ∃ settings coordinator, Settings.resolve own config host = .ok settings ∧ Settings.Accepted config settings ∧
      settings.platforms ≠ [] ∧ start own config host = .ok coordinator ∧ coordinator.settings = settings ∧
      Settled coordinator := by
  rcases Settings.resolve_guards there written host with ⟨problem,stops,unfit⟩ | ⟨settings,resolved,accepted,same⟩
  · exact .inl ⟨_,stops,Ask.bind_error stops,rfl,problem,rfl,unfit⟩
  · obtain ⟨platform,found,-⟩ := @Platform.detect_ends _ host texts
    have began : start own config host = .ok ⟨settings,platform⟩ := by
      rw [start,Ask.bind_ok resolved,same]
      exact Ask.bind_ok found
    exact .inr ⟨settings,_,resolved,accepted,accepted.platforms.ne_nil,began,rfl,settled_of_accepted accepted⟩

-- A host that names a platform twice.
def shop : Value := .object [("platforms",.texts ["web", "terminal", "web"]), ("namespace",.text "shop"),
  ("env",.object [("UNIFIED_UI_WEB",.text "1")])]

theorem start_settled_shop : shop ≠ .null ∧
    (∀ key ∈ ["timeoutMs", "platforms", "namespace"], Settings.Written (Settings.setting shop key)) ∧
    Platform.IsEnvironment ((Settings.setting shop "env").orElse .absent) ∧
    ∃ coordinator, start .absent shop .silent = .ok coordinator ∧ coordinator.platform = .web ∧
      coordinator.settings.platforms = [.web, .terminal] ∧ Settled coordinator := by
  have written : ∀ key ∈ ["timeoutMs", "platforms", "namespace"], Settings.Written (Settings.setting shop key) := by
    refine List.forall_mem_cons.mpr ⟨.unset,List.forall_mem_cons.mpr ⟨.list ?_,List.forall_mem_singleton.mpr (.scalar (.text _))⟩⟩
    exact List.forall_mem_map.mpr fun name _ => .text name
  have texts : Platform.IsEnvironment ((Settings.setting shop "env").orElse .absent) :=
    ⟨rfl,List.forall_mem_singleton.mpr ⟨_,rfl⟩⟩
  refine ⟨nofun,written,texts,?_⟩
  have began : ∃ coordinator, start .absent shop .silent = .ok coordinator ∧ coordinator.platform = .web ∧
      coordinator.settings.platforms = [.web, .terminal] := ⟨_,rfl,rfl,rfl⟩
  obtain ⟨coordinator,began,found,platforms⟩ := began
  rcases @start_settled .absent shop nofun written texts .silent with ⟨fault,_,stops,_⟩ | ⟨settings,other,_,_,_,began',_,settled⟩
  · cases began.symm.trans stops
  · cases began.symm.trans began'
    exact ⟨coordinator,began,found,platforms,settled⟩

end Coordinator

end Trifold
