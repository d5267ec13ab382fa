/-
# Converting resources between `getambassador.io/v2` and `v3alpha1`

The Go API layer converts resources between the v2 and the v3alpha1 schema
(pkg/api/getambassador.io/v2/handwritten.conversion.go). In v2 a Mapping says
whether to originate TLS to its upstream with `tls` (a Boolean, or the name of
a TLSContext) and with the scheme of `service`; in v3alpha1 only with a
TLSContext name in `tls` and an `https://` scheme. The encoder
(`convert_v2_TLS_To_v3alpha1_TLS`) keeps what v3alpha1 cannot say in
`v2ExplicitTLS`: how `tls` was spelled, and the scheme the service had when
a Boolean `tls` forced `https://`. The decoder
(`convert_v3alpha1_TLS_To_v2_TLS`) reads it back. Both parse the scheme of a
service as `IRCluster` does, case-insensitively (`parseScheme`).

Every v2 `tls` and service comes back unchanged, and so does every TCPMapping,
whose service has no scheme, through the wrappers that drop and force the
saved scheme (`tls_round_trip`).

The decoder also reads v3alpha1 resources written by hand, with any
`v2ExplicitTLS`. It then keeps whether TLS is originated and which context
is named (`originatesTLS_preserved`), unless the service is `http://`
followed by a second `https://` and the saved scheme is empty: it then drops
the `http://` and the v2 service starts `https://`, so TLS is originated
where the v3alpha1 resource did not (`originate_tls_switched_on`).

A whole Mapping goes through the same TLS converters and through the maps of
header and query-parameter matches, where a v2 `true` (the header must be
present) becomes the regex `.*` and is listed in `v2BoolHeaders`, and through
the host, where v2's empty host becomes `*` and the sentinel
`_skip_mapping_with_empty_host_` an empty hostname.

Key definitions: `parseScheme`, `convert_v2_TLS_To_v3alpha1_TLS`,
`convert_v3alpha1_TLS_To_v2_TLS`, `Convert_v2_TCPMappingSpec_To_v3alpha1_TCPMappingSpec`,
`Convert_v3alpha1_TCPMappingSpec_To_v2_TCPMappingSpec`.
Key theorems: `tls_round_trip`, `originatesTLS_preserved`.
-/
import Emissary.Basic
import Emissary.Lib.Dict
import Emissary.Lib.Text

namespace Emissary
namespace Conversion

/-! ### The values -/

/-- `v2.BoolOrString`: a JSON Boolean or string. -/
structure BoolOrString where
  string : Option Key := none
  bool : Option Bool := none
  deriving DecidableEq, Repr

/-- What JSON holds: `MarshalJSON` refuses a value with both set. -/
def BoolOrString.Valid (b : BoolOrString) : Prop := b.string = none ∨ b.bool = none

instance (b : BoolOrString) : Decidable b.Valid := inferInstanceAs (Decidable (_ ∨ _))

/-- `v3alpha1.V2ExplicitTLS`: the spelling of a v2 `tls` (`TLS`) and the
scheme of a v2 service (`ServiceScheme`) that v3alpha1 cannot say. -/
structure V2ExplicitTLS where
  tls : Key := []
  serviceScheme : Option Key := none
  deriving DecidableEq, Repr

/-! ### Schemes -/

/-- The scheme of a service as both converters parse it, "as ircluster.py
does": the service without its scheme, the scheme as spelled, and whether it
is `https://`. -/
def parseScheme (svc : Key) : Key × Key × Bool :=
  if "https://".toList <+: Text.lower svc then
    (svc.drop "https://".toList.length, svc.take "https://".toList.length, true)
  else if "http://".toList <+: Text.lower svc then
    (svc.drop "http://".toList.length, svc.take "http://".toList.length, false)
  else (svc, [], false)

/-- A scheme as a hand-written `v2ExplicitTLS.serviceScheme` may spell it:
`^([hH][tT][tT][pP][sS]?://)?$`. -/
def SchemeSpelling (sch : Key) : Prop :=
  sch = [] ∨ Text.lower sch = "http://".toList ∨ Text.lower sch = "https://".toList

/-- The scheme and the bare service make up the service. -/
theorem parseScheme_scheme_append (svc : Key) : (parseScheme svc).2.1 ++ (parseScheme svc).1 = svc := by
  unfold parseScheme
  split
  · exact List.take_append_drop _ _
  · split
    · exact List.take_append_drop _ _
    · rfl

/-- The parsed scheme is `https://` exactly when the service starts with it. -/
theorem parseScheme_https (svc : Key) :
    (parseScheme svc).2.2 = decide ("https://".toList <+: Text.lower svc) := by
  unfold parseScheme
  by_cases h : "https://".toList <+: Text.lower svc
  · rw [if_pos h, decide_eq_true h]
  · rw [if_neg h, decide_eq_false h]
    split <;> rfl

/-- Its spelling lowers to `https://` exactly then, too. -/
theorem parseScheme_scheme_lower (svc : Key) :
    decide (Text.lower (parseScheme svc).2.1 = "https://".toList) = (parseScheme svc).2.2 := by
  unfold parseScheme
  by_cases hs : "https://".toList <+: Text.lower svc
  · rw [if_pos hs]
    exact decide_eq_true (Text.take_append_drop_of_prefix_lower hs).1
  · rw [if_neg hs]
    by_cases h : "http://".toList <+: Text.lower svc
    · rw [if_pos h]
      refine decide_eq_false ?_
      rw [(Text.take_append_drop_of_prefix_lower h).1]
      decide
    · rw [if_neg h]
      rfl

/-- A scheme that lowers to a word, followed by anything. -/
theorem parseScheme_of_lower {sch : Key} (hs : Text.lower sch = "https://".toList) (bare : Key) :
    parseScheme (sch ++ bare) = (bare, sch, true) := by
  have hlen : sch.length = "https://".toList.length := by
    rw [← Text.length_lower, hs]
  unfold parseScheme
  rw [if_pos (Text.prefix_lower_append sch hs), ← hlen, List.drop_left, List.take_left]

/-- A service without a scheme is left as it is. -/
theorem parseScheme_of_not_prefix {svc : Key} (hs : ¬"https://".toList <+: Text.lower svc)
    (h : ¬"http://".toList <+: Text.lower svc) : parseScheme svc = (svc, [], false) := by
  unfold parseScheme
  rw [if_neg hs, if_neg h]

/-- `https://` starts a service with a spelled scheme exactly when the
scheme is `https://`. -/
theorem https_prefix_append_iff {sch : Key} (hsch : SchemeSpelling sch) (hne : sch ≠ []) (bare : Key) :
    "https://".toList <+: Text.lower (sch ++ bare) ↔ Text.lower sch = "https://".toList := by
  rw [Text.lower_append]
  rcases hsch with h | h | h
  · exact absurd h hne
  · rw [h]
    constructor
    · intro hp
      exact absurd (List.prefix_iff_eq_take.mp hp) (by simp)
    · intro h'
      exact absurd h' (by decide)
  · rw [h]
    exact ⟨fun _ => rfl, fun _ => List.prefix_append _ _⟩

/-! ### v2 to v3alpha1 -/

/-- The spelling of a v2 `tls` that names no context, for `V2ExplicitTLS.TLS`. -/
def explicitTLSOf : Option BoolOrString → Key
  | none => []
  | some b =>
    if b.bool = some true then "bool:true".toList
    else if b.bool = some false then "bool:false".toList
    else if b.string = some [] then "string".toList
    else if b = {} then "null".toList
    else []

/-- `convert_v2_TLS_To_v3alpha1_TLS`: the v3alpha1 `tls`, `service` and
`v2ExplicitTLS` of a v2 `tls` and `service`. -/
def convert_v2_TLS_To_v3alpha1_TLS (inTLS : Option BoolOrString) (inSvc : Key) :
    Key × Key × Option V2ExplicitTLS :=
  let (bareSvc, explicitScheme, schemeTLS) := parseScheme inSvc
  let ctxName : Key := (inTLS.bind (·.string)).getD []
  let originateTLS := schemeTLS || decide (ctxName ≠ []) || inTLS.bind (·.bool) == some true
  if ctxName ≠ [] then (ctxName, inSvc, some {})
  else
    let outExplicitTLS := explicitTLSOf inTLS
    -- an `https://` scheme forces `originateTLS`, so the scheme and the
    -- decision differ only when a Boolean asks for TLS without it
    let schemeIsHTTPS := decide (Text.lower explicitScheme = "https://".toList)
    let (outSvc, outExplicitScheme) :=
      if schemeIsHTTPS == originateTLS then (inSvc, none)
      else ("https://".toList ++ bareSvc, some explicitScheme)
    let outExplicit :=
      if outExplicitTLS = [] ∧ outExplicitScheme = none then none
      else some { tls := outExplicitTLS, serviceScheme := outExplicitScheme }
    ([], outSvc, outExplicit)

/-! ### v3alpha1 to v2 -/

/-- `Convert_string_To_Pointer_v2_BoolOrString`: a non-empty string, else nil.
The generated converters set the v2 `tls` with it before the decoder runs. -/
def Convert_string_To_Pointer_v2_BoolOrString (s : Key) : Option BoolOrString :=
  if s ≠ [] then some { string := some s } else none

/-- The switch on `V2ExplicitTLS.TLS` when v3alpha1 names no context: the v2
`tls` it writes (`outTLS`, the one before, for a spelling it does not know)
and whether that `tls` is truthy. -/
def tlsOfSpelling (spelling : Key) (originateTLS : Bool) (outTLS : Option BoolOrString) :
    Option BoolOrString × Bool :=
  if spelling = "null".toList then (some {}, false)
  else if spelling = "bool:false".toList then (some { bool := some false }, false)
  else if spelling = "bool:true".toList then
    if originateTLS then (some { bool := some true }, true) else (outTLS, false)
  else if spelling = "string".toList then (some { string := some [] }, false)
  else (outTLS, false)

/-- `convert_v3alpha1_TLS_To_v2_TLS`: the v2 `tls` and `service`; `outTLS` is
the v2 `tls` before the call. -/
def convert_v3alpha1_TLS_To_v2_TLS (inTLS inSvc : Key) (inExplicit : Option V2ExplicitTLS)
    (outTLS : Option BoolOrString) : Option BoolOrString × Key :=
  let inExplicit := inExplicit.getD {}
  let (bareSvc, _, schemeTLS) := parseScheme inSvc
  let originateTLS := schemeTLS || decide (inTLS ≠ [])
  let (outTLS, tlsIsTruthy) :=
    if inTLS ≠ [] then (some { string := some inTLS }, true)
    else tlsOfSpelling inExplicit.tls originateTLS outTLS
  let outSvc :=
    if tlsIsTruthy then
      -- `tls` overrides the scheme, so the saved one comes back as it was
      match inExplicit.serviceScheme with
      | some sch => sch ++ bareSvc
      | none => inSvc
    else
      match inExplicit.serviceScheme with
      | some sch =>
        if decide (Text.lower sch = "https://".toList) == originateTLS then sch ++ bareSvc else inSvc
      | none => inSvc
  (outTLS, outSvc)

/-- A v2 `tls` and `service` converted to v3alpha1 and back, into a fresh v2
resource. -/
def tlsRoundTrip (inTLS : Option BoolOrString) (inSvc : Key) : Option BoolOrString × Key :=
  match convert_v2_TLS_To_v3alpha1_TLS inTLS inSvc with
  | (tls, svc, explicit) => convert_v3alpha1_TLS_To_v2_TLS tls svc explicit none

/-! ### TCPMappings -/

namespace V2

/-- The `tls` and `service` of a v2 `TCPMappingSpec`. -/
structure TCPMappingSpec where
  tls : Option BoolOrString := none
  service : Key := []
  deriving DecidableEq, Repr

end V2

namespace V3alpha1

/-- The `tls`, `service` and `v2ExplicitTLS` of a v3alpha1 `TCPMappingSpec`. -/
structure TCPMappingSpec where
  tls : Key := []
  service : Key := []
  v2ExplicitTLS : Option V2ExplicitTLS := none
  deriving DecidableEq, Repr

end V3alpha1

/-- `Convert_v2_TCPMappingSpec_To_v3alpha1_TCPMappingSpec`: never a saved
scheme, since v2 did not allow schemes for TCPMappings. -/
def Convert_v2_TCPMappingSpec_To_v3alpha1_TCPMappingSpec (m : V2.TCPMappingSpec) :
    V3alpha1.TCPMappingSpec :=
  let (tls, service, explicit) := convert_v2_TLS_To_v3alpha1_TLS m.tls m.service
  let explicit := explicit.bind fun e => if e.tls ≠ [] then some { tls := e.tls } else none
  { tls, service, v2ExplicitTLS := explicit }

/-- `Convert_v3alpha1_TCPMappingSpec_To_v2_TCPMappingSpec`: the saved scheme
forced to `""`; the generated part sets `tls` first. -/
def Convert_v3alpha1_TCPMappingSpec_To_v2_TCPMappingSpec (m : V3alpha1.TCPMappingSpec) :
    V2.TCPMappingSpec :=
  let e := m.v2ExplicitTLS.getD {}
  let e : V2ExplicitTLS :=
    match e.serviceScheme with
    | some [] => e
    | _ => { e with serviceScheme := some [] }
  let (tls, service) :=
    convert_v3alpha1_TLS_To_v2_TLS m.tls m.service (some e) (Convert_string_To_Pointer_v2_BoolOrString m.tls)
  { tls, service }

/-! ### The converters, case by case -/

/-- A JSON `BoolOrString` is `null`, a string or a Boolean. -/
theorem BoolOrString.Valid.cases {b : BoolOrString} (hb : b.Valid) :
    b = {} ∨ (∃ s, b = { string := some s }) ∨ ∃ v, b = { bool := some v } := by
  obtain ⟨string, bool⟩ := b
  rcases hb with h | h <;> simp only at h <;> subst h
  · cases bool with
    | none => exact Or.inl rfl
    | some v => exact Or.inr (Or.inr ⟨v, rfl⟩)
  · cases string with
    | none => exact Or.inl rfl
    | some s => exact Or.inr (Or.inl ⟨s, rfl⟩)

/-- A v2 `tls` naming a context goes over as the name, with the service as it is. -/
theorem convert_v2_of_context {inTLS : Option BoolOrString} {s : Key}
    (hs : (inTLS.bind (·.string)).getD [] = s) (hne : s ≠ []) (inSvc : Key) :
    convert_v2_TLS_To_v3alpha1_TLS inTLS inSvc = (s, inSvc, some {}) := by
  unfold convert_v2_TLS_To_v3alpha1_TLS
  rw [hs]
  simp only [if_pos hne]

/-- Without a context name, the service changes only when a Boolean `true`
asks for TLS that the scheme does not give; it then gets `https://` and the
scheme it had is saved. -/
theorem convert_v2_of_no_context {inTLS : Option BoolOrString}
    (hs : (inTLS.bind (·.string)).getD [] = []) (inSvc : Key) :
    convert_v2_TLS_To_v3alpha1_TLS inTLS inSvc =
      if (parseScheme inSvc).2.2 = false ∧ inTLS.bind (·.bool) = some true then
        ([], "https://".toList ++ (parseScheme inSvc).1,
          some { tls := explicitTLSOf inTLS, serviceScheme := some (parseScheme inSvc).2.1 })
      else
        ([], inSvc,
          if explicitTLSOf inTLS = [] then none else some { tls := explicitTLSOf inTLS }) := by
  have hlower := parseScheme_scheme_lower inSvc
  unfold convert_v2_TLS_To_v3alpha1_TLS
  rcases hp : parseScheme inSvc with ⟨bare, sch, https⟩
  rw [hp] at hlower
  simp only [hs, ne_eq, not_true_eq_false, decide_false, Bool.or_false, if_false] at hlower ⊢
  rw [hlower]
  cases https <;> cases hb : inTLS.bind (·.bool) with
  | none => simp
  | some v => cases v <;> simp

/-- A v3alpha1 context name comes back as the v2 `tls`, with the saved
scheme in front of the bare service. -/
theorem convert_v3alpha1_of_tls {inTLS : Key} (h : inTLS ≠ []) (inSvc : Key)
    (inExplicit : Option V2ExplicitTLS) (outTLS : Option BoolOrString) :
    convert_v3alpha1_TLS_To_v2_TLS inTLS inSvc inExplicit outTLS =
      (some { string := some inTLS },
        match (inExplicit.getD {}).serviceScheme with
        | some sch => sch ++ (parseScheme inSvc).1
        | none => inSvc) := by
  unfold convert_v3alpha1_TLS_To_v2_TLS
  rcases parseScheme inSvc with ⟨bare, sch, https⟩
  simp only [if_pos h]
  cases (inExplicit.getD {}).serviceScheme <;> rfl

/-- Without a context name, the spelling decides the v2 `tls`, and the saved
scheme goes in front of the bare service when `tls` is truthy or the scheme
agrees with what the service says. -/
theorem convert_v3alpha1_of_no_tls (inSvc : Key) (inExplicit : Option V2ExplicitTLS)
    (outTLS : Option BoolOrString) :
    convert_v3alpha1_TLS_To_v2_TLS [] inSvc inExplicit outTLS =
      ((tlsOfSpelling (inExplicit.getD {}).tls (parseScheme inSvc).2.2 outTLS).1,
        match (inExplicit.getD {}).serviceScheme with
        | some sch =>
          if (tlsOfSpelling (inExplicit.getD {}).tls (parseScheme inSvc).2.2 outTLS).2 ||
              decide (Text.lower sch = "https://".toList) == (parseScheme inSvc).2.2 then
            sch ++ (parseScheme inSvc).1
          else inSvc
        | none => inSvc) := by
  unfold convert_v3alpha1_TLS_To_v2_TLS
  rcases parseScheme inSvc with ⟨bare, sch, https⟩
  simp only [ne_eq, not_true_eq_false, decide_false, Bool.or_false, if_false]
  rcases tlsOfSpelling (inExplicit.getD {}).tls https outTLS with ⟨t, truthy⟩
  cases truthy <;> cases (inExplicit.getD {}).serviceScheme <;> rfl

/-- The spelling `explicitTLSOf` saves reads back as the v2 `tls` it came
from, truthy exactly when it is `true`; a `true` reads back only where TLS is
originated. -/
theorem tlsOfSpelling_explicitTLSOf {inTLS : Option BoolOrString} (hv : ∀ b ∈ inTLS, b.Valid)
    (hs : (inTLS.bind (·.string)).getD [] = []) {originateTLS : Bool}
    (ho : inTLS.bind (·.bool) = some true → originateTLS = true) :
    tlsOfSpelling (explicitTLSOf inTLS) originateTLS none =
      (inTLS, decide (inTLS.bind (·.bool) = some true)) := by
  cases inTLS with
  | none => rfl
  | some b =>
    rcases (hv b rfl).cases with rfl | ⟨str, rfl⟩ | ⟨v, rfl⟩
    · rfl
    · -- a context name is not spelled; an empty string is
      simp only [Option.bind_some, Option.getD_some] at hs
      subst hs
      rfl
    · cases v with
      | false => rfl
      | true =>
        simp only [Option.bind_some, forall_const] at ho
        simp [explicitTLSOf, tlsOfSpelling, ho]

/-- `none` and `some {}` read alike. -/
theorem explicit_getD (t : Key) :
    (if t = [] then none else some ({ tls := t } : V2ExplicitTLS)).getD {} = { tls := t } := by
  split
  · rename_i h
    rw [h]
    rfl
  · rfl

/-! ### The round trip -/

/-- Every v2 `tls` and service comes back from v3alpha1 unchanged. -/
theorem tlsRoundTrip_eq (inTLS : Option BoolOrString) (inSvc : Key) (hv : ∀ b ∈ inTLS, b.Valid) :
    tlsRoundTrip inTLS inSvc = (inTLS, inSvc) := by
  unfold tlsRoundTrip
  by_cases hs : (inTLS.bind (·.string)).getD [] = []
  · rw [convert_v2_of_no_context hs]
    by_cases hforce : (parseScheme inSvc).2.2 = false ∧ inTLS.bind (·.bool) = some true
    · -- `true` without `https://`: the saved scheme replaces the forced one
      rw [if_pos hforce]
      dsimp only
      have hparse := @parseScheme_of_lower "https://".toList (by decide) (parseScheme inSvc).1
      rw [convert_v3alpha1_of_no_tls, Option.getD_some, hparse]
      dsimp only
      rw [tlsOfSpelling_explicitTLSOf hv hs (fun _ => rfl), hforce.2]
      simp only [decide_true, Bool.true_or, if_true, parseScheme_scheme_append]
    · rw [if_neg hforce]
      dsimp only
      rw [convert_v3alpha1_of_no_tls, explicit_getD]
      -- with `true`, the service already says `https://`
      have ho : inTLS.bind (·.bool) = some true → (parseScheme inSvc).2.2 = true := by
        intro hb
        by_contra hn
        exact hforce ⟨by simpa using hn, hb⟩
      rw [tlsOfSpelling_explicitTLSOf hv hs ho]
  · obtain ⟨s, hs'⟩ : ∃ s, (inTLS.bind (·.string)).getD [] = s := ⟨_, rfl⟩
    rw [hs'] at hs
    rw [convert_v2_of_context hs' hs]
    dsimp only
    rw [convert_v3alpha1_of_tls hs]
    -- a context name is a string `tls`
    cases inTLS with
    | none => exact absurd hs'.symm hs
    | some b =>
      rcases (hv b rfl).cases with rfl | ⟨str, rfl⟩ | ⟨v, rfl⟩
      · exact absurd hs'.symm hs
      · simp only [Option.bind_some, Option.getD_some] at hs'
        subst hs'
        rfl
      · exact absurd hs'.symm hs

/-- A TCPMapping, whose service has no scheme, comes back from v3alpha1
unchanged. -/
theorem tcpMapping_round_trip (m : V2.TCPMappingSpec) (hv : ∀ b ∈ m.tls, b.Valid)
    (hs : ¬"https://".toList <+: Text.lower m.service) (h : ¬"http://".toList <+: Text.lower m.service) :
    Convert_v3alpha1_TCPMappingSpec_To_v2_TCPMappingSpec
      (Convert_v2_TCPMappingSpec_To_v3alpha1_TCPMappingSpec m) = m := by
  obtain ⟨inTLS, svc⟩ := m
  have hparse := parseScheme_of_not_prefix hs h
  have hnone : Convert_string_To_Pointer_v2_BoolOrString [] = none := rfl
  simp only at hv hparse ⊢
  unfold Convert_v2_TCPMappingSpec_To_v3alpha1_TCPMappingSpec Convert_v3alpha1_TCPMappingSpec_To_v2_TCPMappingSpec
  by_cases hctx : (inTLS.bind (·.string)).getD [] = []
  · rw [convert_v2_of_no_context hctx, hparse]
    by_cases hb : inTLS.bind (·.bool) = some true
    · -- `true`: the service is forced to `https://`, the empty scheme dropped and forced back
      simp only [true_and, hb, if_true]
      have hspell : explicitTLSOf inTLS ≠ [] := by
        obtain ⟨b, rfl⟩ : ∃ b, inTLS = some b := Option.ne_none_iff_exists'.mp (fun h0 => by simp [h0] at hb)
        simp only [Option.bind_some] at hb
        simp [explicitTLSOf, hb]
      simp only [Option.bind_some, if_pos hspell, Option.getD_some]
      rw [convert_v3alpha1_of_no_tls, Option.getD_some,
        @parseScheme_of_lower "https://".toList (by decide) svc]
      dsimp only
      rw [hnone, tlsOfSpelling_explicitTLSOf hv hctx (fun _ => rfl), hb]
      simp
    · have hno : ¬((false : Bool) = false ∧ inTLS.bind (·.bool) = some true) := fun h' => hb h'.2
      rw [if_neg hno]
      dsimp only
      -- the spelling alone is saved, and the forced empty scheme reads as none
      have he : ((if explicitTLSOf inTLS = [] then none
          else some ({ tls := explicitTLSOf inTLS } : V2ExplicitTLS)).bind
            fun e => if e.tls ≠ [] then some ({ tls := e.tls } : V2ExplicitTLS) else none).getD {} =
          { tls := explicitTLSOf inTLS } := by
        split
        · rename_i hnil
          rw [hnil]
          rfl
        · rename_i hne
          simp [hne]
      rw [he, convert_v3alpha1_of_no_tls, hparse]
      simp only [Option.getD_some]
      rw [hnone, tlsOfSpelling_explicitTLSOf hv hctx (fun h' => absurd h' hb)]
      simp [hb]
  · obtain ⟨str, hstr⟩ : ∃ str, (inTLS.bind (·.string)).getD [] = str := ⟨_, rfl⟩
    rw [hstr] at hctx
    rw [convert_v2_of_context hstr hctx]
    dsimp only
    rw [convert_v3alpha1_of_tls hctx, hparse]
    cases inTLS with
    | none => exact absurd hstr.symm hctx
    | some b =>
      rcases (hv b rfl).cases with rfl | ⟨str', rfl⟩ | ⟨v, rfl⟩
      · exact absurd hstr.symm hctx
      · simp only [Option.bind_some, Option.getD_some] at hstr
        subst hstr
        rfl
      · exact absurd hstr.symm hctx

theorem tls_round_trip :
    (∀ (inTLS : Option BoolOrString) (inSvc : Key), (∀ b ∈ inTLS, b.Valid) →
      tlsRoundTrip inTLS inSvc = (inTLS, inSvc)) ∧
    ∀ m : V2.TCPMappingSpec, (∀ b ∈ m.tls, b.Valid) →
      ¬"https://".toList <+: Text.lower m.service → ¬"http://".toList <+: Text.lower m.service →
      Convert_v3alpha1_TCPMappingSpec_To_v2_TCPMappingSpec
        (Convert_v2_TCPMappingSpec_To_v3alpha1_TCPMappingSpec m) = m :=
  ⟨tlsRoundTrip_eq, tcpMapping_round_trip⟩

theorem tls_round_trip_forced :
    (∀ b ∈ (some { bool := some true } : Option BoolOrString), b.Valid) ∧
      tlsRoundTrip (some { bool := some true }) "HTTP://svc".toList =
        (some { bool := some true }, "HTTP://svc".toList) ∧
      Convert_v3alpha1_TCPMappingSpec_To_v2_TCPMappingSpec
        (Convert_v2_TCPMappingSpec_To_v3alpha1_TCPMappingSpec
          { tls := some { bool := some true }, service := "svc".toList }) =
        { tls := some { bool := some true }, service := "svc".toList } :=
  ⟨by simp [BoolOrString.Valid],
    tls_round_trip.1 _ _ (by simp [BoolOrString.Valid]),
    tls_round_trip.2 _ (by simp [BoolOrString.Valid]) (by decide) (by decide)⟩

/-! ### Whether TLS is originated -/

/-- `IRCluster`'s decision (ircluster.py) for a v2 `tls` and `service` whose
named context exists: an `https://` scheme, a context name, or `true`. -/
def V2.originatesTLS (tls : Option BoolOrString) (svc : Key) : Bool :=
  decide ("https://".toList <+: Text.lower svc) || decide ((tls.bind (·.string)).getD [] ≠ []) ||
    tls.bind (·.bool) == some true

/-- The context a v2 `tls` names (`""` for none). -/
def V2.contextName (tls : Option BoolOrString) : Key := (tls.bind (·.string)).getD []

/-- The same decision for v3alpha1: an `https://` scheme or a context name. -/
def V3alpha1.originatesTLS (tls svc : Key) : Bool :=
  decide ("https://".toList <+: Text.lower svc) || decide (tls ≠ [])

/-- A spelling reads back as no context, and as `true` exactly when it is
truthy, which it is only where TLS is originated. -/
theorem tlsOfSpelling_spec (spelling : Key) (originateTLS : Bool) :
    V2.contextName (tlsOfSpelling spelling originateTLS none).1 = [] ∧
      ((tlsOfSpelling spelling originateTLS none).1.bind (·.bool) == some true) =
        (tlsOfSpelling spelling originateTLS none).2 ∧
      ((tlsOfSpelling spelling originateTLS none).2 = true → originateTLS = true) := by
  unfold tlsOfSpelling
  split_ifs <;> simp_all [V2.contextName]

/-- With no context name, v3alpha1 originates TLS by the scheme alone. -/
theorem V3alpha1.originatesTLS_nil (svc : Key) :
    V3alpha1.originatesTLS [] svc = (parseScheme svc).2.2 := by
  simp only [V3alpha1.originatesTLS, ne_eq, not_true_eq_false, decide_false, Bool.or_false]
  exact (parseScheme_https svc).symm

/-- With no context name, v2 originates TLS by the scheme or by `true`. -/
theorem V2.originatesTLS_of_contextName {tls : Option BoolOrString} (h : V2.contextName tls = [])
    (svc : Key) :
    V2.originatesTLS tls svc = (decide ("https://".toList <+: Text.lower svc) || tls.bind (·.bool) == some true) := by
  rw [V2.contextName] at h
  simp only [V2.originatesTLS, h, ne_eq, not_true_eq_false, decide_false, Bool.or_false]

/-- Whatever its `v2ExplicitTLS` says, a v3alpha1 resource converts to a v2
one that originates TLS exactly when it does and names its context, as long
as an empty saved scheme does not bare a service that starts with a second
`https://`. -/
theorem originatesTLS_preserved (inTLS inSvc : Key) (inExplicit : Option V2ExplicitTLS)
    (hsch : ∀ sch ∈ (inExplicit.getD {}).serviceScheme, SchemeSpelling sch)
    (hbare : (inExplicit.getD {}).serviceScheme = some [] →
      ¬"https://".toList <+: Text.lower (parseScheme inSvc).1) :
    V2.originatesTLS
        (convert_v3alpha1_TLS_To_v2_TLS inTLS inSvc inExplicit
          (Convert_string_To_Pointer_v2_BoolOrString inTLS)).1
        (convert_v3alpha1_TLS_To_v2_TLS inTLS inSvc inExplicit
          (Convert_string_To_Pointer_v2_BoolOrString inTLS)).2 =
      V3alpha1.originatesTLS inTLS inSvc ∧
    V2.contextName
        (convert_v3alpha1_TLS_To_v2_TLS inTLS inSvc inExplicit
          (Convert_string_To_Pointer_v2_BoolOrString inTLS)).1 = inTLS := by
  by_cases htls : inTLS = []
  · subst htls
    have hnone : Convert_string_To_Pointer_v2_BoolOrString [] = none := rfl
    rw [hnone, convert_v3alpha1_of_no_tls, V3alpha1.originatesTLS_nil]
    obtain ⟨hctx, hbool, horig⟩ := tlsOfSpelling_spec (inExplicit.getD {}).tls (parseScheme inSvc).2.2
    rcases ht : tlsOfSpelling (inExplicit.getD {}).tls (parseScheme inSvc).2.2 none with ⟨t, truthy⟩
    rw [ht] at hctx hbool horig
    dsimp only at hctx hbool horig ⊢
    refine ⟨?_, hctx⟩
    rw [V2.originatesTLS_of_contextName hctx, hbool]
    cases truthy with
    | true =>
      -- `true` only where the scheme originates TLS
      rw [Bool.or_true, horig rfl]
    | false =>
      rw [Bool.or_false]
      cases hs : (inExplicit.getD {}).serviceScheme with
      | none => exact (parseScheme_https inSvc).symm
      | some sch =>
        simp only [Bool.false_or]
        split
        · rename_i hagree
          rw [beq_iff_eq] at hagree
          -- the saved scheme agrees with the service, and says the same before the bare service
          by_cases hnil : sch = []
          · subst hnil
            rw [List.nil_append, decide_eq_false (hbare hs), ← hagree]
            exact (decide_eq_false (by decide)).symm
          · rw [← hagree]
            exact decide_eq_decide.mpr (https_prefix_append_iff (hsch sch hs) hnil (parseScheme inSvc).1)
        · exact (parseScheme_https inSvc).symm
  · rw [convert_v3alpha1_of_tls htls]
    refine ⟨?_, rfl⟩
    simp only [V2.originatesTLS, V3alpha1.originatesTLS, Option.bind_some, Option.getD_some, ne_eq,
      htls, not_false_eq_true, decide_true, Bool.or_true, Bool.true_or]

/-- A hand-written v3alpha1 service `http://https://foo` with an empty saved
scheme originates no TLS; the v2 service it converts to, `https://foo`, does. -/
theorem originate_tls_switched_on :
    V3alpha1.originatesTLS [] "http://https://foo".toList = false ∧
      convert_v3alpha1_TLS_To_v2_TLS [] "http://https://foo".toList (some { serviceScheme := some [] })
          (Convert_string_To_Pointer_v2_BoolOrString []) = (none, "https://foo".toList) ∧
      V2.originatesTLS none "https://foo".toList = true := by
  decide

/-! ### Mappings -/

/-- The v2 host that stands for an empty v3alpha1 hostname. -/
def skipHost : Key := "_skip_mapping_with_empty_host_".toList

namespace V2

/-- The fields of a v2 `MappingSpec` that the handwritten conversion reads;
the generated part copies the others. -/
structure MappingSpec where
  host : Key := []
  hostRegex : Option Bool := none
  headers : Dict Key BoolOrString := ∅
  regexHeaders : Dict Key Key := ∅
  queryParameters : Dict Key BoolOrString := ∅
  regexQueryParameters : Dict Key Key := ∅
  tls : Option BoolOrString := none
  service : Key := []

end V2

namespace V3alpha1

/-- The fields of a v3alpha1 `MappingSpec` that the handwritten conversion
reads; `deprecatedHost` and `deprecatedHostRegex` are its `host` and
`host_regex`. -/
structure MappingSpec where
  deprecatedHost : Key := []
  deprecatedHostRegex : Option Bool := none
  hostname : Key := []
  headers : Dict Key Key := ∅
  regexHeaders : Dict Key Key := ∅
  v2BoolHeaders : List Key := []
  queryParameters : Dict Key Key := ∅
  regexQueryParameters : Dict Key Key := ∅
  v2BoolQueryParameters : List Key := []
  tls : Key := []
  service : Key := []
  v2ExplicitTLS : Option V2ExplicitTLS := none

end V3alpha1

/-- One pass of the loop over v2 `headers` (and, alike, `query_parameters`):
a string is an exact match; `true` becomes the regex `.*`, unless the name
has a regex already, and the name is listed in `v2BoolHeaders`. -/
def boolMatchStep (acc : Dict Key Key × Dict Key Key × List Key) (kv : Key × BoolOrString) :
    Dict Key Key × Dict Key Key × List Key :=
  match kv.2.string, kv.2.bool with
  | some s, _ => (acc.1.set kv.1 s, acc.2.1, acc.2.2)
  | none, some true =>
    (acc.1, if kv.1 ∈ acc.2.1 then acc.2.1 else acc.2.1.set kv.1 ".*".toList, acc.2.2 ++ [kv.1])
  | none, _ => acc

/-- The encoder's loop over v2 `headers` (or `query_parameters`), starting
from the v2 regexes, which the generated part copies: the exact matches, the
regexes and the names that were `true`. -/
def encodeBoolMatches (bs : Dict Key BoolOrString) (regexes : Dict Key Key) :
    Dict Key Key × Dict Key Key × List Key :=
  bs.entries.foldl boolMatchStep (∅, regexes, [])

/-- The v2 `headers` (or `query_parameters`) of v3alpha1's exact matches. -/
def stringMatches (m : Dict Key Key) : Dict Key BoolOrString :=
  m.entries.foldl (fun out kv => out.set kv.1 { string := some kv.2 }) ∅

/-- One pass of the loop over `v2BoolHeaders` (and `v2BoolQueryParameters`):
a listed name with a regex and no exact match becomes `true` again, and its
regex goes if it is `.*`. -/
def boolMatchRestore (acc : Dict Key BoolOrString × Dict Key Key) (name : Key) :
    Dict Key BoolOrString × Dict Key Key :=
  match acc.2.get? name with
  | some re =>
    if name ∈ acc.1 then acc
    else (acc.1.set name { bool := some true }, if re = ".*".toList then acc.2.erase name else acc.2)
  | none => acc

/-- The decoder's part for v3alpha1 exact matches, regexes and `true` names:
the exact matches first, then the loop over the names. -/
def decodeBoolMatches (enc : Dict Key Key × Dict Key Key × List Key) :
    Dict Key BoolOrString × Dict Key Key :=
  enc.2.2.foldl boolMatchRestore (stringMatches enc.1, enc.2.1)

/-- The v3alpha1 `hostname` and `host` of a v2 `host` and `host_regex`. -/
def hostToV3alpha1 (host : Key) (hostRegex : Option Bool) : Key × Key :=
  if hostRegex = some true then ([], host)
  else if host = [] then ("*".toList, [])
  else if host = skipHost then ([], [])
  else (host, [])

/-- The v2 `host` and `host_regex` of a v3alpha1 `hostname`, `host` and
`host_regex`: the fix-ups on the copy of the input, the generated copy, then
the fix-ups of `host`. -/
def hostToV2 (hostname deprecatedHost : Key) (deprecatedHostRegex : Option Bool) : Key × Option Bool :=
  let (hostname, deprecatedHost, deprecatedHostRegex) :=
    if hostname ≠ [] then (hostname, [], deprecatedHostRegex.map fun _ => false)
    else if deprecatedHost = [] ∧ deprecatedHostRegex ≠ some true then
      (skipHost, deprecatedHost, deprecatedHostRegex)
    else (hostname, deprecatedHost, deprecatedHostRegex)
  let host := if deprecatedHost ≠ [] then deprecatedHost else hostname
  (if deprecatedHostRegex ≠ some true ∧ host = "*".toList then [] else host, deprecatedHostRegex)

/-- `Convert_v2_MappingSpec_To_v3alpha1_MappingSpec`, on the fields it reads. -/
def Convert_v2_MappingSpec_To_v3alpha1_MappingSpec (m : V2.MappingSpec) : V3alpha1.MappingSpec :=
  let (tls, service, v2ExplicitTLS) := convert_v2_TLS_To_v3alpha1_TLS m.tls m.service
  let (headers, regexHeaders, v2BoolHeaders) := encodeBoolMatches m.headers m.regexHeaders
  let (queryParameters, regexQueryParameters, v2BoolQueryParameters) :=
    encodeBoolMatches m.queryParameters m.regexQueryParameters
  let (hostname, deprecatedHost) := hostToV3alpha1 m.host m.hostRegex
  { deprecatedHost, deprecatedHostRegex := m.hostRegex, hostname, headers, regexHeaders, v2BoolHeaders,
    queryParameters, regexQueryParameters, v2BoolQueryParameters, tls, service, v2ExplicitTLS }

/-- `Convert_v3alpha1_MappingSpec_To_v2_MappingSpec`, on the fields it reads;
the generated part sets `tls` before the TLS decoder runs. -/
def Convert_v3alpha1_MappingSpec_To_v2_MappingSpec (m : V3alpha1.MappingSpec) : V2.MappingSpec :=
  let (host, hostRegex) := hostToV2 m.hostname m.deprecatedHost m.deprecatedHostRegex
  let (tls, service) := convert_v3alpha1_TLS_To_v2_TLS m.tls m.service m.v2ExplicitTLS
    (Convert_string_To_Pointer_v2_BoolOrString m.tls)
  let (headers, regexHeaders) := decodeBoolMatches (m.headers, m.regexHeaders, m.v2BoolHeaders)
  let (queryParameters, regexQueryParameters) :=
    decodeBoolMatches (m.queryParameters, m.regexQueryParameters, m.v2BoolQueryParameters)
  { host, hostRegex, headers, regexHeaders, queryParameters, regexQueryParameters, tls, service }

/-- A header or query value as the v2 schema takes it: a string or `true`. -/
def BoolOrString.IsMatch (b : BoolOrString) : Prop :=
  (∃ s, b = { string := some s }) ∨ b = { bool := some true }

/-- A v2 Mapping from JSON, with header and query values that are strings or
`true`. -/
def V2.MappingSpec.Valid (m : V2.MappingSpec) : Prop :=
  (∀ b ∈ m.tls, b.Valid) ∧ (∀ k b, m.headers.get? k = some b → b.IsMatch) ∧
    ∀ k b, m.queryParameters.get? k = some b → b.IsMatch

/-- Two v2 Mappings JSON serializes alike: maps by their entries in any
order. -/
def V2.MappingSpec.Equiv (a b : V2.MappingSpec) : Prop :=
  a.host = b.host ∧ a.hostRegex = b.hostRegex ∧ (∀ k, a.headers.get? k = b.headers.get? k) ∧
    (∀ k, a.regexHeaders.get? k = b.regexHeaders.get? k) ∧
    (∀ k, a.queryParameters.get? k = b.queryParameters.get? k) ∧
    (∀ k, a.regexQueryParameters.get? k = b.regexQueryParameters.get? k) ∧ a.tls = b.tls ∧
    a.service = b.service

/-! ### The Mapping round trip, part by part -/

/-- What the decoder of a resource writes does not depend on the `tls` the
generated part set. -/
theorem convert_v3alpha1_of_pointer (inTLS inSvc : Key) (inExplicit : Option V2ExplicitTLS) :
    convert_v3alpha1_TLS_To_v2_TLS inTLS inSvc inExplicit (Convert_string_To_Pointer_v2_BoolOrString inTLS) =
      convert_v3alpha1_TLS_To_v2_TLS inTLS inSvc inExplicit none := by
  by_cases h : inTLS = []
  · subst h
    rfl
  · rw [convert_v3alpha1_of_tls h, convert_v3alpha1_of_tls h]

/-- The host comes back, unless it is `*` without `host_regex`. -/
theorem hostToV2_hostToV3alpha1 (host : Key) (hostRegex : Option Bool)
    (h : hostRegex ≠ some true → host ≠ "*".toList) :
    hostToV2 (hostToV3alpha1 host hostRegex).1 (hostToV3alpha1 host hostRegex).2 hostRegex =
      (host, hostRegex) := by
  unfold hostToV3alpha1
  by_cases hr : hostRegex = some true
  · -- a regex host travels in `host`
    subst hr
    by_cases hh : host = []
    · subst hh
      rfl
    · simp [hostToV2, hh]
  · have hstar : host ≠ ['*'] := h hr
    rw [if_neg hr]
    by_cases hh : host = []
    · -- the empty host travels as `*`
      subst hh
      cases hostRegex with
      | none => rfl
      | some b =>
        cases b with
        | false => rfl
        | true => exact absurd rfl hr
    · rw [if_neg hh]
      by_cases hs : host = skipHost
      · -- the sentinel travels as the empty hostname
        subst hs
        have hne : skipHost ≠ ['*'] := by decide
        simp [hostToV2, hr, hne]
      · -- a plain host: a `host_regex` of `false` comes back as such
        rw [if_neg hs]
        cases hostRegex with
        | none => simp [hostToV2, hh, hstar]
        | some b =>
          cases b with
          | false => simp [hostToV2, hh, hstar]
          | true => exact absurd rfl hr

/-- What one pass of the encoder's loop leaves at its own key: the exact match,
the regex and whether the name is listed. -/
def boolMatchAt (b : BoolOrString) (v : Option Key × Option Key × Prop) : Option Key × Option Key × Prop :=
  match b.string, b.bool with
  | some s, _ => (some s, v.2.1, v.2.2)
  | none, some true => (v.1, if v.2.1.isSome then v.2.1 else some ".*".toList, True)
  | none, _ => v

/-- The encoder, key by key: what it leaves at a key is decided by the v2
value there. -/
theorem encodeBoolMatches_get? (bs : Dict Key BoolOrString) (regexes : Dict Key Key) (k : Key) :
    ((encodeBoolMatches bs regexes).1.get? k, (encodeBoolMatches bs regexes).2.1.get? k,
        k ∈ (encodeBoolMatches bs regexes).2.2) =
      match bs.get? k with
      | some b => boolMatchAt b (none, regexes.get? k, False)
      | none => (none, regexes.get? k, False) := by
  refine (Dict.foldl_entries_pointwise
    (fun (s : Dict Key Key × Dict Key Key × List Key) (k : Key) => (s.1.get? k, s.2.1.get? k, k ∈ s.2.2))
    boolMatchStep (fun _ b v => boolMatchAt b v) ?_ bs (∅, regexes, []) k).trans ?_
  · -- one pass changes its own key only; split on the value first, as the loop does
    intro s k₀ b k'
    obtain ⟨strs, res, names⟩ := s
    obtain ⟨string, bool⟩ := b
    cases string with
    | some str =>
      -- an exact match
      dsimp only [boolMatchStep, boolMatchAt]
      by_cases hk : k' = k₀
      · subst hk
        simp
      · simp [hk, Dict.get?_set_ne _ _ hk]
    | none =>
      rcases bool with _ | ⟨_ | _⟩
      iterate 2
        -- no value, or `false`: nothing changes
        dsimp only [boolMatchStep, boolMatchAt]
        split_ifs with hk
        · rw [hk]
        · rfl
      -- `true`: the regex `.*` unless the name has one, and the name listed
      dsimp only [boolMatchStep, boolMatchAt]
      by_cases hk : k' = k₀
      · subst hk
        by_cases hm : k' ∈ res
        · simp [hm, Dict.mem_iff_get?.mp hm]
        · simp [hm, Dict.get?_eq_none.mpr hm]
      · by_cases hm : k₀ ∈ res
        · simp [hm, hk]
        · simp [hm, hk, Dict.get?_set_ne _ _ hk]
  · -- the loop starts with no exact matches and no names
    cases bs.get? k <;> simp

/-- The exact matches come back as strings. -/
theorem stringMatches_get? (m : Dict Key Key) (k : Key) :
    (stringMatches m).get? k = (m.get? k).map fun s => { string := some s } := by
  have h := Dict.foldl_entries_pointwise (fun d k => Dict.get? d k)
    (fun out (kv : Key × Key) => out.set kv.1 ({ string := some kv.2 } : BoolOrString))
    (fun _ s _ => some { string := some s }) (fun d k₀ s k' => Dict.get?_set d k₀ _ k') m ∅ k
  unfold stringMatches
  rw [h]
  cases m.get? k <;> rfl

/-- What one pass of the decoder's loop leaves at its own name: a regex and no
exact match become `true`, with the regex gone if it is `.*`. -/
def restoreAt (out : Option BoolOrString) (re : Option Key) : Option BoolOrString × Option Key :=
  match out, re with
  | none, some re => (some { bool := some true }, if re = ".*".toList then none else some re)
  | out, re => (out, re)

@[simp] theorem restoreAt_some (b : BoolOrString) (re : Option Key) : restoreAt (some b) re = (some b, re) := rfl

@[simp] theorem restoreAt_none_right (out : Option BoolOrString) : restoreAt out none = (out, none) := by
  cases out <;> rfl

theorem restoreAt_none_some (re : Key) :
    restoreAt none (some re) = (some { bool := some true }, if re = ".*".toList then none else some re) := rfl

/-- A second pass at the same name does nothing more. -/
theorem restoreAt_restoreAt (out : Option BoolOrString) (re : Option Key) :
    restoreAt (restoreAt out re).1 (restoreAt out re).2 = restoreAt out re := by
  cases out with
  | some b => rfl
  | none =>
    cases re with
    | none => rfl
    | some r => rfl

/-- One pass of the decoder's loop changes its own name only. -/
theorem boolMatchRestore_get? (acc : Dict Key BoolOrString × Dict Key Key) (k₀ k : Key) :
    ((boolMatchRestore acc k₀).1.get? k, (boolMatchRestore acc k₀).2.get? k) =
      if k = k₀ then restoreAt (acc.1.get? k₀) (acc.2.get? k₀) else (acc.1.get? k, acc.2.get? k) := by
  obtain ⟨outs, res⟩ := acc
  unfold boolMatchRestore
  cases hre : res.get? k₀ with
  | none =>
    by_cases hk : k = k₀
    · subst hk
      simp [hre]
    · simp [hk]
  | some re =>
    by_cases hm : k₀ ∈ outs
    · obtain ⟨b, hb⟩ := Option.isSome_iff_exists.mp (Dict.mem_iff_get?.mp hm)
      by_cases hk : k = k₀
      · subst hk
        simp [hre, hm, hb]
      · simp [hm, hk]
    · -- the name is restored: its regex goes if it is `.*`
      have hnone := Dict.get?_eq_none.mpr hm
      simp only [hm, if_false]
      by_cases hk : k = k₀
      · subst hk
        rw [if_pos rfl, hnone, restoreAt_none_some, Dict.get?_set_self]
        by_cases hr : re = ".*".toList
        · rw [if_pos hr, if_pos hr, Dict.get?_erase_self]
        · rw [if_neg hr, if_neg hr, hre]
      · rw [if_neg hk, Dict.get?_set_ne _ _ hk]
        by_cases hr : re = ".*".toList
        · rw [if_pos hr, Dict.get?_erase_ne _ hk]
        · rw [if_neg hr]

/-- The decoder's loop, name by name: a listed name is restored once. -/
theorem decodeBoolMatches_get? (strs regexes : Dict Key Key) (names : List Key) (k : Key) :
    ((decodeBoolMatches (strs, regexes, names)).1.get? k, (decodeBoolMatches (strs, regexes, names)).2.get? k) =
      if k ∈ names then restoreAt ((stringMatches strs).get? k) (regexes.get? k)
      else ((stringMatches strs).get? k, regexes.get? k) :=
  -- the generic lemma decides membership through `DecidableEq`, the statement through `BEq`
  (Dict.foldl_keys_pointwise (fun s k => ((Prod.fst s : Dict Key BoolOrString).get? k,
      (Prod.snd s : Dict Key Key).get? k)) boolMatchRestore (fun _ v => restoreAt v.1 v.2)
    boolMatchRestore_get? (fun _ v => restoreAt_restoreAt v.1 v.2) names (stringMatches strs, regexes) k).trans
    (by by_cases h : k ∈ names <;> simp [h])

/-- Header (or query) matches come back, unless a `true` name also had the
regex `.*`. -/
theorem decodeBoolMatches_encodeBoolMatches (bs : Dict Key BoolOrString) (regexes : Dict Key Key)
    (hb : ∀ k b, bs.get? k = some b → b.IsMatch)
    (hre : ∀ k, bs.get? k = some { bool := some true } → regexes.get? k ≠ some ".*".toList) (k : Key) :
    (decodeBoolMatches (encodeBoolMatches bs regexes)).1.get? k = bs.get? k ∧
      (decodeBoolMatches (encodeBoolMatches bs regexes)).2.get? k = regexes.get? k := by
  have henc := encodeBoolMatches_get? bs regexes k
  rcases hbs : encodeBoolMatches bs regexes with ⟨strs, res, names⟩
  rw [hbs] at henc
  rw [← Prod.mk.injEq, decodeBoolMatches_get?, stringMatches_get?]
  cases hk : bs.get? k with
  | none =>
    -- untouched: no exact match, not listed
    simp only [hk, Prod.mk.injEq, eq_iff_iff, iff_false] at henc
    obtain ⟨hs, hr, hn⟩ := henc
    simp [hs, hr, hn]
  | some b =>
    rcases hb k b hk with ⟨str, rfl⟩ | rfl
    · -- an exact match stays one
      simp only [hk, boolMatchAt, Prod.mk.injEq, eq_iff_iff, iff_false] at henc
      obtain ⟨hs, hr, hn⟩ := henc
      simp [hs, hr, hn]
    · -- a `true`: listed with a regex, and restored; a `.*` the encoder added goes
      simp only [hk, boolMatchAt, Prod.mk.injEq, eq_iff_iff, iff_true] at henc
      obtain ⟨hs, hr, hn⟩ := henc
      rw [if_pos hn, hs, Option.map_none, hr]
      cases hu : regexes.get? k with
      | none =>
        rw [if_neg (by simp), restoreAt_none_some, if_pos rfl]
      | some r =>
        have hr' : r ≠ ".*".toList := fun h' => hre k hk (by rw [hu, h'])
        rw [Option.isSome_some, if_pos rfl, restoreAt_none_some, if_neg hr']

/-- A v2 Mapping with `host: "*"` and nothing else. -/
def starHostMapping : V2.MappingSpec := { host := "*".toList }

/-- A v2 Mapping whose header `x` is both `true` and the regex `.*`. -/
def trueRegexHeaderMapping : V2.MappingSpec :=
  { host := "a".toList, headers := (∅ : Dict Key BoolOrString).set "x".toList { bool := some true },
    regexHeaders := (∅ : Dict Key Key).set "x".toList ".*".toList }

/-- Its regex does not come back: the decoder reads the `.*` of a `true`
header as the `true` alone. -/
theorem true_regex_header_dropped :
    (Convert_v3alpha1_MappingSpec_To_v2_MappingSpec
        (Convert_v2_MappingSpec_To_v3alpha1_MappingSpec trueRegexHeaderMapping)).regexHeaders.get? "x".toList = none ∧
      ¬(Convert_v3alpha1_MappingSpec_To_v2_MappingSpec
        (Convert_v2_MappingSpec_To_v3alpha1_MappingSpec trueRegexHeaderMapping)).Equiv trueRegexHeaderMapping := by
  have hre : (Convert_v3alpha1_MappingSpec_To_v2_MappingSpec
      (Convert_v2_MappingSpec_To_v3alpha1_MappingSpec trueRegexHeaderMapping)).regexHeaders.get? "x".toList = none := by
    decide
  refine ⟨hre, fun h => ?_⟩
  have hne : (none : Option Key) ≠ trueRegexHeaderMapping.regexHeaders.get? "x".toList := by decide
  exact hne (hre ▸ h.2.2.2.1 "x".toList)

end Conversion
end Emissary
