import Mathlib.Data.List.Induction
import ServiceHost.Proofs.Address.Acceptance

/-!
Settings: what a sequence of settings amounts to. Most parts of a builder keep the last setting that addresses them,
two sets grow by what is named, and stages are appended. Nothing else of a sequence counts: neither the order of
settings that address different parts nor a setting that a later one replaces, however wrong its value is.
-/

namespace ServiceHost

open Http

/-- A text denotes a header name in any case: it is a token of at most 65535 characters. -/
structure Http.HeaderName.Legal (text : String) : Prop where
  token : isToken text.toList
  length : text.toList.length ≤ 65535

namespace Builder

/-- A part of a builder that settings address. The handler of each default route is a part of its own. -/
inductive Part where
  | address
  | traceHeader
  | requestTimeout
  | readTimeout
  | writeTimeout
  | headerTimeout
  | shutdownTimeout
  | tls
  | enabled
  | override (route : DefaultRoute)
  | loggersDisabled
  | ipProvider
  | redactor
  | stages
  | loggerDisabled
  | waitGroup
  | shutdownSignal
  | span
  | notFound
  | methodNotAllowed
  | panicHandler
  deriving DecidableEq, Repr

/-- Does a part keep the last value and nothing of those before? The others gather all values. -/
def Part.keepsLast : Part → Bool
  | .enabled | .loggersDisabled | .stages => false
  | _ => true

/-- What a sequence of settings amounts to: for each part that keeps the last value the setting that gave it, the
default routes that were enabled, those whose logger was disabled, and all stages in order. -/
structure Digest where
  last : Part → Option Setting
  enabled : DefaultRoute.Set
  loggersDisabled : DefaultRoute.Set
  stages : List Stage

end Builder

open Builder

namespace Setting

/-- The part that a setting addresses. -/
def part : Setting → Part
  | .address _ => .address
  | .traceHeader _ => .traceHeader
  | .requestTimeout _ => .requestTimeout
  | .readTimeout _ => .readTimeout
  | .writeTimeout _ => .writeTimeout
  | .headerTimeout _ => .headerTimeout
  | .shutdownTimeout _ => .shutdownTimeout
  | .tls _ => .tls
  | .enable _ => .enabled
  | .override route _ => .override route
  | .disableRouteLogger _ => .loggersDisabled
  | .ipProvider _ => .ipProvider
  | .redactor _ => .redactor
  | .stages _ => .stages
  | .disableLogger => .loggerDisabled
  | .waitGroup _ => .waitGroup
  | .shutdownSignal _ => .shutdownSignal
  | .span _ => .span
  | .notFound _ => .notFound
  | .methodNotAllowed _ => .methodNotAllowed
  | .panicHandler _ => .panicHandler

/-- The default routes that a setting enables. -/
def enables : Setting → List DefaultRoute
  | .enable routes => routes
  | _ => []

/-- The default routes whose logger a setting disables. -/
def silences : Setting → List DefaultRoute
  | .disableRouteLogger route => [route]
  | _ => []

/-- The stages that a setting appends. -/
def appends : Setting → List Stage
  | .stages more => more
  | _ => []

/-- The last setting that addresses a part. -/
def lastOf (part : Part) (settings : List Setting) : Option Setting :=
  (settings.filter (·.part = part)).getLast?

/-- What a sequence of settings amounts to. -/
def digest (settings : List Setting) : Digest where
  last part := if part.keepsLast then lastOf part settings else none
  enabled := DefaultRoute.insertAll (fun _ => false) (settings.flatMap enables)
  loggersDisabled := DefaultRoute.insertAll (fun _ => false) (settings.flatMap silences)
  stages := settings.flatMap appends

end Setting

/-- The builder with what a sequence of settings amounts to. -/
def Builder.adopt (builder : Builder) (digest : Digest) : Builder where
  address := match digest.last .address with
    | some (.address text) => text
    | _ => builder.address
  traceHeader := match digest.last .traceHeader with
    | some (.traceHeader name) => name
    | _ => builder.traceHeader
  timeouts :=
    { request := match digest.last .requestTimeout with
        | some (.requestTimeout limit) => limit
        | _ => builder.timeouts.request
      read := match digest.last .readTimeout with
        | some (.readTimeout limit) => limit
        | _ => builder.timeouts.read
      write := match digest.last .writeTimeout with
        | some (.writeTimeout limit) => limit
        | _ => builder.timeouts.write
      header := match digest.last .headerTimeout with
        | some (.headerTimeout limit) => limit
        | _ => builder.timeouts.header
      shutdown := match digest.last .shutdownTimeout with
        | some (.shutdownTimeout limit) => limit
        | _ => builder.timeouts.shutdown }
  tls := match digest.last .tls with
    | some (.tls material) => some material
    | _ => builder.tls
  enabled route := builder.enabled route || digest.enabled route
  overrides route := match digest.last (.override route) with
    | some (.override _ handler) => some handler
    | _ => builder.overrides route
  loggersDisabled route := builder.loggersDisabled route || digest.loggersDisabled route
  ipProvider := match digest.last .ipProvider with
    | some (.ipProvider provider) => some provider
    | _ => builder.ipProvider
  redactor := match digest.last .redactor with
    | some (.redactor redactor) => redactor
    | _ => builder.redactor
  stages := builder.stages ++ digest.stages
  loggerDisabled := builder.loggerDisabled || (digest.last .loggerDisabled).isSome
  waitGroup := match digest.last .waitGroup with
    | some (.waitGroup handle) => some handle
    | _ => builder.waitGroup
  shutdownSignal := match digest.last .shutdownSignal with
    | some (.shutdownSignal handle) => some handle
    | _ => builder.shutdownSignal
  span := match digest.last .span with
    | some (.span span) => some span
    | _ => builder.span
  notFound := match digest.last .notFound with
    | some (.notFound handler) => some handler
    | _ => builder.notFound
  methodNotAllowed := match digest.last .methodNotAllowed with
    | some (.methodNotAllowed handler) => some handler
    | _ => builder.methodNotAllowed
  panicHandler := match digest.last .panicHandler with
    | some (.panicHandler handler) => some handler
    | _ => builder.panicHandler

/-- Why a builder makes no configuration. The name of the trace header counts only where the address is valid. -/
inductive Builder.Refused (builder : Builder) : ConfigError → Prop where
  | address {fault : AddressFault} : (∀ address, ¬Address.Written builder.address.toList address) →
      Address.ofString builder.address = .error fault →
      Refused builder (.invalidAddress builder.address fault.message)
  | traceHeader {address : Address} : Address.Written builder.address.toList address →
      ¬HeaderName.Legal builder.traceHeader →
      Refused builder (.invalidOption "trace_header" "invalid HTTP header name")

variable {setting one other replaced : Setting} {settings front back : List Setting} {part : Part} {builder : Builder}

/-! ### Digests -/

/-- Only the members of what is inserted count. -/
theorem DefaultRoute.insertAll_congr {routes others : List DefaultRoute}
    (same : ∀ route, route ∈ routes ↔ route ∈ others) (set : Set) : insertAll set routes = insertAll set others := by
  funext route
  simp [insertAll, same]

namespace Setting

theorem lastOf_snoc (part : Part) (settings : List Setting) (setting : Setting) :
    lastOf part (settings ++ [setting]) = if setting.part = part then some setting else lastOf part settings := by
  rw [lastOf, List.filter_append]
  by_cases addressed : setting.part = part
  · rw [if_pos addressed, List.filter_cons_of_pos (by simpa using addressed), List.filter_nil, List.getLast?_concat]
  · rw [if_neg addressed, List.filter_cons_of_neg (by simpa using addressed), List.filter_nil, List.append_nil, lastOf]

/-- One more setting counts for its own part only. -/
theorem digest_snoc (settings : List Setting) (setting : Setting) :
    digest (settings ++ [setting]) =
      { last := fun part =>
          if part.keepsLast && setting.part = part then some setting else (digest settings).last part
        enabled := DefaultRoute.insertAll (digest settings).enabled setting.enables
        loggersDisabled := DefaultRoute.insertAll (digest settings).loggersDisabled setting.silences
        stages := (digest settings).stages ++ setting.appends } := by
  simp only [digest, Digest.mk.injEq, lastOf_snoc, List.flatMap_append, List.flatMap_singleton, and_true]
  refine ⟨?_, ?_, ?_⟩
  · funext part
    by_cases keeps : part.keepsLast <;> simp [keeps]
  · funext route
    simp [DefaultRoute.insertAll]
  · funext route
    simp [DefaultRoute.insertAll]

theorem appends_eq_nil (other : setting.part ≠ .stages) : setting.appends = [] := by
  cases setting <;> first | rfl | exact absurd rfl other

/-- Two settings of different parts may change places. -/
theorem digest_swap (front back : List Setting) (apart : one.part ≠ other.part) :
    digest (front ++ one :: other :: back) = digest (front ++ other :: one :: back) := by
  have swapped : (front ++ one :: other :: back).Perm (front ++ other :: one :: back) :=
    List.Perm.append_left front (List.Perm.swap other one back)
  have last (part : Part) :
      lastOf part (front ++ one :: other :: back) = lastOf part (front ++ other :: one :: back) := by
    have alone : one.part ≠ part ∨ other.part ≠ part :=
      or_iff_not_imp_left.mpr fun here there => apart ((not_not.mp here).trans there.symm)
    simp only [lastOf, List.filter_append, List.filter_cons, decide_eq_true_eq]
    rcases alone with other | other <;> simp only [if_neg other]
  have union (routes : Setting → List DefaultRoute) (set : DefaultRoute.Set) :
      DefaultRoute.insertAll set ((front ++ one :: other :: back).flatMap routes) =
        DefaultRoute.insertAll set ((front ++ other :: one :: back).flatMap routes) :=
    DefaultRoute.insertAll_congr (fun route => (swapped.flatMap_right routes).mem_iff) set
  have stages : one.appends = [] ∨ other.appends = [] := by
    by_cases first : one.part = .stages
    · exact .inr (appends_eq_nil fun second => apart (first.trans second.symm))
    · exact .inl (appends_eq_nil first)
  have gathered :
      (front ++ one :: other :: back).flatMap appends = (front ++ other :: one :: back).flatMap appends := by
    simp only [List.flatMap_append, List.flatMap_cons]
    rcases stages with none | none <;> simp only [none, List.nil_append]
  simp only [digest, last, union, gathered]

/-- A setting that a later one of its part replaces does not count. -/
theorem digest_replaced (front back : List Setting) (keeps : replaced.part.keepsLast)
    (later : ∃ setting ∈ back, setting.part = replaced.part) :
    digest (front ++ replaced :: back) = digest (front ++ back) := by
  have last (part : Part) : lastOf part (front ++ replaced :: back) = lastOf part (front ++ back) := by
    simp only [lastOf, List.filter_append, List.filter_cons, decide_eq_true_eq]
    split
    · rename_i here
      obtain ⟨setting, member, same⟩ := later
      have kept : setting ∈ back.filter (·.part = part) :=
        List.mem_filter.mpr ⟨member, decide_eq_true (same.trans here)⟩
      obtain ⟨final, found⟩ := Option.ne_none_iff_exists'.mp
        (mt List.getLast?_eq_none_iff.mp (List.ne_nil_of_mem kept))
      rw [List.getLast?_append, List.getLast?_append, List.getLast?_cons, found]
      rfl
    · rfl
  have nothing : replaced.enables = [] ∧ replaced.silences = [] ∧ replaced.appends = [] := by
    cases replaced <;> first | exact ⟨rfl, rfl, rfl⟩ | cases keeps
  simp only [digest, last, List.flatMap_append, List.flatMap_cons, nothing, List.nil_append]

end Setting

/-! ### Header names -/

/-- The lower-case form of an upper-case letter is a lower-case letter. -/
theorem Http.isLower_toLower {c : Char} (upper : c.isUpper) : c.toLower.isLower ∧ ¬c.toLower.isUpper := by
  have range : 'A'.val ≤ c.val ∧ c.val ≤ 'Z'.val := of_decide_eq_true upper
  have low : 65 ≤ c.val.toNat := UInt32.le_iff_toNat_le.mp range.1
  have high : c.val.toNat ≤ 90 := UInt32.le_iff_toNat_le.mp range.2
  have shifted : c.toLower.val = c.val + 32 := congrArg Char.val (dif_pos range)
  have number : c.toLower.val.toNat = c.val.toNat + 32 := by
    rw [shifted, UInt32.toNat_add, show (32 : UInt32).toNat = 32 from rfl]
    omega
  constructor
  · have lower : 97 ≤ c.toLower.val.toNat ∧ c.toLower.val.toNat ≤ 122 := by omega
    have range : 'a'.val ≤ c.toLower.val ∧ c.toLower.val ≤ 'z'.val := by
      rwa [UInt32.le_iff_toNat_le, UInt32.le_iff_toNat_le]
    exact Bool.and_eq_true_iff.mpr ⟨decide_eq_true range.1, decide_eq_true range.2⟩
  · intro again
    have bound : c.toLower.val.toNat ≤ 90 := UInt32.le_iff_toNat_le.mp (of_decide_eq_true again).2
    omega

theorem Http.isNameChar_toLower (c : Char) : isNameChar c.toLower = isTokenChar c := by
  by_cases upper : c.isUpper
  · obtain ⟨lower, small⟩ := isLower_toLower upper
    have alphanumeric : c.isAlphanum := Bool.or_eq_true_iff.mpr (.inl (Bool.or_eq_true_iff.mpr (.inl upper)))
    have lowered : c.toLower.isAlphanum := Bool.or_eq_true_iff.mpr (.inl (Bool.or_eq_true_iff.mpr (.inr lower)))
    simp [isNameChar, isTokenChar, alphanumeric, lowered, small]
  · have same : c.toLower = c := dif_neg fun range => upper (decide_eq_true range)
    rw [same, isNameChar, Bool.eq_false_iff.mpr upper, Bool.not_false, Bool.and_true]

/-- Header names are read exactly from the texts that denote one. -/
theorem Http.HeaderName.isSome_ofString?_iff {text : String} : (ofString? text).isSome ↔ Legal text := by
  have same : isHeaderName (String.ofList (text.toList.map Char.toLower)).toList ↔
      isToken text.toList ∧ text.toList.length ≤ 65535 := by
    simp only [isHeaderName, isToken, String.toList_ofList, List.isEmpty_map, List.all_map, List.length_map,
      Function.comp_def, isNameChar_toLower, Bool.and_eq_true, decide_eq_true_eq]
  rw [ofString?]
  split
  · rename_i legal
    exact iff_of_true rfl ⟨(same.mp legal).1, (same.mp legal).2⟩
  · rename_i illegal
    exact iff_of_false (by simp) fun legal => illegal (same.mpr ⟨legal.token, legal.length⟩)

/-! ### The builder -/

namespace Builder

/-- A builder that adopted a digest takes one more setting as it adopts the longer digest. -/
theorem apply_adopt (builder : Builder) (settings : List Setting) (setting : Setting) :
    (builder.adopt (Setting.digest settings)).apply setting =
      builder.adopt (Setting.digest (settings ++ [setting])) := by
  rw [Setting.digest_snoc]
  generalize Setting.digest settings = digest
  have grows (set more : DefaultRoute.Set) (routes : List DefaultRoute) :
      DefaultRoute.insertAll (fun route => set route || more route) routes =
        fun route => set route || DefaultRoute.insertAll more routes route := by
    funext route
    rw [DefaultRoute.insertAll, DefaultRoute.insertAll, Bool.or_assoc]
  have same (set : DefaultRoute.Set) : DefaultRoute.insertAll set [] = set := by
    funext route
    simp [DefaultRoute.insertAll]
  cases setting with
  | override route handler =>
    simp only [apply, adopt, Setting.part, Part.keepsLast, Setting.enables, Setting.silences, Setting.appends, same,
      Bool.true_and, reduceCtorEq, decide_false, Bool.false_eq_true, if_false, List.append_nil, Part.override.injEq,
      decide_eq_true_eq]
    congr 1
    funext other
    by_cases here : route = other
    · rw [if_pos here, if_pos here.symm]
    · rw [if_neg here, if_neg (Ne.symm here)]
  | _ =>
    simp [apply, adopt, Setting.part, Part.keepsLast, Setting.enables, Setting.silences, Setting.appends, grows, same]

/-- A builder becomes what its settings amount to. -/
theorem applyAll_eq_adopt (builder : Builder) (settings : List Setting) :
    builder.applyAll settings = builder.adopt (Setting.digest settings) := by
  induction settings using List.reverseRecOn with
  | nil => simp [adopt, Setting.digest, Setting.lastOf, DefaultRoute.insertAll]
  | append_singleton settings setting inductionHypothesis =>
    rw [applyAll_append, inductionHypothesis, ← apply_adopt]
    rfl

/-- A builder makes no configuration exactly for the reasons that it is refused for. -/
theorem build_eq_error_iff {fault : ConfigError} : builder.build = .error fault ↔ builder.Refused fault := by
  rw [build]
  cases address : Address.ofString builder.address with
  | error addressFault =>
    have unwritten (address' : Address) : ¬Address.Written builder.address.toList address' := fun written => by
      rw [Address.ofString, Address.ofChars_eq_ok_iff.mpr written] at address
      exact absurd address (by simp)
    constructor
    · rintro ⟨⟩
      exact .address unwritten address
    · rintro (⟨-, same⟩ | ⟨written, -⟩)
      · rw [Except.error.inj (address.symm.trans same)]
      · exact absurd written (unwritten _)
  | ok address' =>
    have written : Address.Written builder.address.toList address' := Address.ofChars_eq_ok_iff.mp address
    cases name : HeaderName.ofString? builder.traceHeader with
    | none =>
      have illegal : ¬HeaderName.Legal builder.traceHeader := by
        rw [← HeaderName.isSome_ofString?_iff, name]
        decide
      constructor
      · rintro ⟨⟩
        exact .traceHeader written illegal
      · rintro (⟨unwritten, -⟩ | ⟨-, -⟩)
        · exact absurd written (unwritten _)
        · rfl
    | some traceHeader =>
      refine iff_of_false (by simp) ?_
      rintro (⟨unwritten, -⟩ | ⟨-, illegal⟩)
      · exact unwritten _ written
      · exact illegal (HeaderName.isSome_ofString?_iff.mp (by simp [name]))

/-- The configuration keeps the options that it was made from. -/
theorem options_of_build {config : Config} (built : builder.build = .ok config) : config.options = builder := by
  rw [build] at built
  split at built
  · exact absurd built (by simp)
  · split at built
    · exact absurd built (by simp)
    · rw [← Except.ok.inj built]

/-- What becomes of a builder is settled by what its settings amount to. -/
theorem build_settled (builder : Builder) :
    (∀ settings, (builder.applyAll settings).build = (builder.adopt (Setting.digest settings)).build) ∧
      (∀ settings config, (builder.applyAll settings).build = .ok config →
        config.options = builder.adopt (Setting.digest settings)) ∧
      (∀ settings fault, (builder.applyAll settings).build = .error fault ↔
        (builder.adopt (Setting.digest settings)).Refused fault) ∧
      (∀ front back (one other : Setting), one.part ≠ other.part →
        (builder.applyAll (front ++ one :: other :: back)).build =
          (builder.applyAll (front ++ other :: one :: back)).build) ∧
      ∀ front back (replaced : Setting), replaced.part.keepsLast →
        (∃ later ∈ back, later.part = replaced.part) →
        (builder.applyAll (front ++ replaced :: back)).build = (builder.applyAll (front ++ back)).build := by
  refine ⟨fun settings => ?_, fun settings config built => ?_, fun settings fault => ?_,
    fun front back one other apart => ?_, fun front back replaced keeps later => ?_⟩
  · rw [applyAll_eq_adopt]
  · rw [options_of_build built, applyAll_eq_adopt]
  · rw [applyAll_eq_adopt, build_eq_error_iff]
  · simp only [applyAll_eq_adopt, Setting.digest_swap front back apart]
  · simp only [applyAll_eq_adopt, Setting.digest_replaced front back keeps later]

example :
    (applyAll {} [.address "nowhere", .traceHeader "a b", .address ":80", .traceHeader "Id"]).build.toOption.map
      (·.traceHeader.text) = some "id" := by decide

end Builder

end ServiceHost
