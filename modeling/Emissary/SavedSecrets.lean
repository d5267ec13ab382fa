/-
# The IR's saved secrets

Every part of the IR that needs a secret asks `IR.resolve_secret(resource,
secret_name, namespace)` (ir.py). It looks the pair up as
`f"{secret_name}.{namespace}"` among the secrets already saved
(`saved_secrets`); failing that, among the secrets watt handed in, which
`save_secret_info` keeps under `f"{name}.{namespace}"` of each; failing that,
it asks the secret handler to load it. A secret found is written to disk
(`cache_secret`) and saved for next time, under `secret_name` alone.

So the store is written under bare names and read under `name.namespace`.
Along any run of calls, every saved secret sits under its own name
(`resolve_secrets_saved_under_name`), so a lookup hits only a secret whose
name is the whole `name.namespace`, and then serves it for a name and a
namespace it does not have (`resolve_secret_of_hit`). A secret `foo.bar` in
namespace `x`, once resolved, is served for `foo` in namespace `bar`
(`resolve_secrets_serves_other_namespace`). Where no name and no namespace
has a dot, no lookup ever hits, and every call returns the secret it asked
for (`resolve_secrets_names`).

Namespaces are Kubernetes namespaces, which have no dot; a secret handler
loads the secret it is asked for (`LoadsRequested`), as the null handler
does and the default one, which loads nothing, trivially does. The SHA-1
that names the files on disk is a parameter.

Key definitions: `SecretInfo.from_aconf_secret`, `IR.save_secret_info`,
`SecretHandler.cache_internal`, `IR.resolve_secret`, `IR.resolve_secrets`.
Key theorems: `resolve_secret_cases`, `save_secret_info_wf`,
`resolve_secrets_saved_under_name`, `resolve_secret_of_hit`, `resolve_secrets_names`.
-/
import Emissary.Basic
import Emissary.Lib.Dict
import Emissary.Lib.Text

namespace Emissary
namespace SavedSecrets

/-! ### Secrets as watt hands them in -/

/-- Python's truth of an optional string: set and not empty. -/
def truthy : Option Key → Bool
  | some s => !s.isEmpty
  | none => false

/-- `x or y` on optional strings. -/
def orElse (x y : Option Key) : Option Key :=
  if truthy x then x else y

/-- `SecretInfo`: a secret's name, namespace and decoded elements. -/
structure SecretInfo where
  name : Key
  «namespace» : Key
  secret_type : Key
  tls_crt : Option Key
  tls_key : Option Key
  user_key : Option Key
  root_crt : Option Key
  deriving DecidableEq, Repr

/-- `SecretInfo.is_decodable`: set, and not already a PEM or sanitized. -/
def SecretInfo.is_decodable (b64_pem : Option Key) : Bool :=
  match b64_pem with
  | some s =>
    !s.isEmpty && !("-----BEGIN".toList.isPrefixOf s || "-sanitized-".toList.isPrefixOf s)
  | none => false

/-- One element as `SecretInfo.__init__` keeps it: base64-decoded when
`decode_b64` and it is decodable (`decode` is `SecretInfo.decode`, `None`
when the text is not base64 of UTF-8). -/
def SecretInfo.decodeElement (decode : Key → Option Key) (decode_b64 : Bool) (el : Option Key) :
    Option Key :=
  match el with
  | some s => if decode_b64 && SecretInfo.is_decodable (some s) then decode s else some s
  | none => none

/-- `SecretInfo(name, namespace, secret_type, ...)`. -/
def SecretInfo.new (decode : Key → Option Key) (name «namespace» secret_type : Key)
    (tls_crt tls_key user_key root_crt : Option Key) (decode_b64 : Bool) : SecretInfo :=
  let dec := SecretInfo.decodeElement decode decode_b64
  ⟨name, «namespace», secret_type, dec tls_crt, dec tls_key, dec user_key, dec root_crt⟩

/-- The members of a secret resource that `save_secret_info` and
`from_aconf_secret` read. -/
structure AConfSecret where
  name : Key
  «namespace» : Key
  secret_type : Key
  tls_crt : Option Key := none
  cert_chain_pem : Option Key := none
  tls_key : Option Key := none
  key_pem : Option Key := none
  user_key : Option Key := none
  crl_pem : Option Key := none
  root_cert_pem : Option Key := none
  deriving DecidableEq, Repr

/-- `SecretInfo.from_aconf_secret`: the Kubernetes and the Consul spellings of
each element, the first that is set. -/
def SecretInfo.from_aconf_secret (decode : Key → Option Key) (aconf_object : AConfSecret) :
    SecretInfo :=
  SecretInfo.new decode aconf_object.name aconf_object.«namespace» aconf_object.secret_type
    (orElse aconf_object.tls_crt aconf_object.cert_chain_pem)
    (orElse aconf_object.tls_key aconf_object.key_pem)
    (orElse aconf_object.user_key aconf_object.crl_pem)
    aconf_object.root_cert_pem true

/-- The test in `save_secret_info`: the secret has at least a public half. -/
def AConfSecret.has_public_half (s : AConfSecret) : Bool :=
  truthy s.tls_crt || truthy s.cert_chain_pem || truthy s.user_key || truthy s.crl_pem

/-- `f"{secret_name}.{namespace}"`, the key of both stores. -/
def ssKey (secret_name «namespace» : Key) : Key :=
  secret_name ++ '.' :: «namespace»

/-! ### Secrets on disk -/

/-- The elements of a saved secret, as `cert_data` holds them. -/
structure CertData where
  tls_crt : Option Key
  tls_key : Option Key
  user_key : Option Key
  root_crt : Option Key
  deriving DecidableEq, Repr

/-- `SavedSecret`: where a secret's elements were written. -/
structure SavedSecret where
  secret_name : Key
  «namespace» : Key
  cert_path : Option Key
  key_path : Option Key
  user_path : Option Key
  root_cert_path : Option Key
  cert_data : Option CertData
  deriving DecidableEq, Repr

/-- `SavedSecret.__bool__`: a certificate or a user key, and its data. -/
def SavedSecret.truthy (ss : SavedSecret) : Bool :=
  (SavedSecrets.truthy ss.cert_path || SavedSecrets.truthy ss.user_path) && ss.cert_data.isSome

/-- `os.path.join` of two POSIX paths. -/
def pathJoin (a b : Key) : Key :=
  if b.head? = some '/' then b
  else if a.isEmpty || a.getLast? = some '/' then a ++ b
  else a ++ '/' :: b

/-- The secret handler: where it caches secrets, and `load_secret`. -/
structure SecretHandler where
  cache_dir : Key
  load_secret : Key → Key → Option SecretInfo

/-- `SecretHandler.cache_internal`: the elements are written under
`cache_dir/namespace/secrets-decoded/name`, named by the upper-case SHA-1
(`hexdigest`) of the certificate, key and user key, when there is anything to
write. -/
def SecretHandler.cache_internal (handler : SecretHandler) (hexdigest : Key → Key)
    (name «namespace» : Key) (tls_crt tls_key user_key root_crt : Option Key) : SavedSecret :=
  if truthy tls_crt || truthy user_key || truthy root_crt then
    let hd := Text.upper (hexdigest (tls_crt.getD [] ++ tls_key.getD [] ++ user_key.getD []))
    let secret_dir := pathJoin (pathJoin (pathJoin handler.cache_dir «namespace»)
      "secrets-decoded".toList) name
    let path (el : Option Key) (ext : Key) : Option Key :=
      if truthy el then some (pathJoin secret_dir (hd ++ ext)) else none
    ⟨name, «namespace», path tls_crt ".crt".toList, path tls_key ".key".toList,
      path user_key ".user".toList, path root_crt ".root.crt".toList,
      some ⟨tls_crt, tls_key, user_key, root_crt⟩⟩
  else ⟨name, «namespace», none, none, none, none, none⟩

/-- `SecretHandler.cache_secret`. -/
def SecretHandler.cache_secret (handler : SecretHandler) (hexdigest : Key → Key)
    (secret_info : SecretInfo) : SavedSecret :=
  handler.cache_internal hexdigest secret_info.name secret_info.«namespace» secret_info.tls_crt
    secret_info.tls_key secret_info.user_key secret_info.root_crt

/-! ### The IR's stores -/

/-- The members of the IR that hold secrets. -/
structure IR where
  saved_secrets : Dict Key SavedSecret
  secret_info : Dict Key SecretInfo

/-- One pass of the loop of `save_secret_info`. -/
def save_secret_step (decode : Key → Option Key) (secret_info : Dict Key SecretInfo)
    (aconf_secret : AConfSecret) : Dict Key SecretInfo :=
  if aconf_secret.has_public_half then
    let si := SecretInfo.from_aconf_secret decode aconf_secret
    secret_info.set (ssKey si.name si.«namespace») si
  else secret_info

/-- `IR.save_secret_info`: the secrets of the configuration, in order. -/
def IR.save_secret_info (decode : Key → Option Key) (ir : IR) (aconf_secrets : List AConfSecret) :
    IR :=
  { ir with secret_info := aconf_secrets.foldl (save_secret_step decode) ir.secret_info }

/-- The stores as `IR.__init__` leaves them before it saves the secret info. -/
def IR.empty : IR := ⟨∅, ∅⟩

/-- `IR.resolve_secret`: the secret, and the stores after. -/
def IR.resolve_secret (handler : SecretHandler) (hexdigest : Key → Key) (ir : IR)
    (secret_name «namespace» : Key) : SavedSecret × IR :=
  let ss_key := ssKey secret_name «namespace»
  match (ir.saved_secrets.get? ss_key).filter SavedSecret.truthy with
  | some ss => (ss, ir)
  | none =>
    -- a `SecretInfo` is always true, so only a missing one falls through to the handler
    match (ir.secret_info.get? ss_key).or (handler.load_secret secret_name «namespace») with
    | none => (⟨secret_name, «namespace», none, none, none, none, none⟩, ir)
    | some secret_info =>
      let ss := handler.cache_secret hexdigest secret_info
      (ss, { ir with saved_secrets := ir.saved_secrets.set secret_name ss })

/-- A run of `resolve_secret` calls: what each returns, and the stores after. -/
def IR.resolve_secrets (handler : SecretHandler) (hexdigest : Key → Key) :
    IR → List (Key × Key) → List SavedSecret × IR
  | ir, [] => ([], ir)
  | ir, (secret_name, «namespace») :: calls =>
    let r := ir.resolve_secret handler hexdigest secret_name «namespace»
    let rest := IR.resolve_secrets handler hexdigest r.2 calls
    (r.1 :: rest.1, rest.2)

/-! ### What one call does -/

section Step

variable {handler : SecretHandler} {hexdigest : Key → Key} {ir ir' : IR}
  {secret_name «namespace» : Key} {ss : SavedSecret}

@[simp] theorem cache_internal_secret_name (handler : SecretHandler) (hexdigest : Key → Key)
    (name «namespace» : Key) (tls_crt tls_key user_key root_crt : Option Key) :
    (handler.cache_internal hexdigest name «namespace» tls_crt tls_key user_key root_crt).secret_name =
      name := by
  unfold SecretHandler.cache_internal
  split <;> rfl

@[simp] theorem cache_internal_namespace (handler : SecretHandler) (hexdigest : Key → Key)
    (name «namespace» : Key) (tls_crt tls_key user_key root_crt : Option Key) :
    (handler.cache_internal hexdigest name «namespace» tls_crt tls_key user_key root_crt).«namespace» =
      «namespace» := by
  unfold SecretHandler.cache_internal
  split <;> rfl

/-- Everything one call can do: serve a saved secret and change nothing;
find nothing and change nothing; or find a secret, in the secret info or by
the handler, and save it under `secret_name`. -/
theorem resolve_secret_cases
    (h : ir.resolve_secret handler hexdigest secret_name «namespace» = (ss, ir')) :
    (ir.saved_secrets.get? (ssKey secret_name «namespace») = some ss ∧ ss.truthy ∧ ir' = ir) ∨
    (ss = ⟨secret_name, «namespace», none, none, none, none, none⟩ ∧ ir' = ir) ∨
    (∃ si, (ir.secret_info.get? (ssKey secret_name «namespace»)).or
        (handler.load_secret secret_name «namespace») = some si ∧
      ss = handler.cache_secret hexdigest si ∧
      ir' = { ir with saved_secrets := ir.saved_secrets.set secret_name ss }) := by
  unfold IR.resolve_secret at h
  dsimp only at h
  split at h
  · rename_i hit
    obtain ⟨hget, htruthy⟩ := Option.filter_eq_some_iff.mp hit
    obtain ⟨rfl, rfl⟩ := Prod.mk.inj h
    exact .inl ⟨hget, htruthy, rfl⟩
  · split at h
    · obtain ⟨rfl, rfl⟩ := Prod.mk.inj h
      exact .inr (.inl ⟨rfl, rfl⟩)
    · rename_i si hsi
      obtain ⟨rfl, rfl⟩ := Prod.mk.inj h
      exact .inr (.inr ⟨si, hsi, rfl, rfl⟩)

/-- A call that finds a saved secret serves it. -/
theorem resolve_secret_of_saved (hget : ir.saved_secrets.get? (ssKey secret_name «namespace») = some ss)
    (htruthy : ss.truthy) : ir.resolve_secret handler hexdigest secret_name «namespace» = (ss, ir) := by
  unfold IR.resolve_secret
  dsimp only
  rw [hget, Option.filter_some, if_pos htruthy]

/-- A call that finds no saved secret and a secret info saves and serves it. -/
theorem resolve_secret_of_info {si : SecretInfo}
    (hnone : ir.saved_secrets.get? (ssKey secret_name «namespace») = none)
    (hsi : ir.secret_info.get? (ssKey secret_name «namespace») = some si) :
    ir.resolve_secret handler hexdigest secret_name «namespace» =
      (handler.cache_secret hexdigest si,
        { ir with saved_secrets := ir.saved_secrets.set secret_name (handler.cache_secret hexdigest si) }) := by
  unfold IR.resolve_secret
  dsimp only
  rw [hnone, Option.filter_none, hsi, Option.some_or]

end Step

/-! ### The stores along a run -/

/-- The secret info as `save_secret_info` leaves it, for Kubernetes
namespaces: each secret under its own `name.namespace`, its namespace free of
dots. -/
structure InfoWF (secret_info : Dict Key SecretInfo) : Prop where
  keyed : ∀ k si, secret_info.get? k = some si → ssKey si.name si.«namespace» = k
  namespaces : ∀ k si, secret_info.get? k = some si → '.' ∉ si.«namespace»

/-- The handler loads the secret it is asked for. -/
def SecretHandler.LoadsRequested (handler : SecretHandler) : Prop :=
  ∀ secret_name «namespace» si, handler.load_secret secret_name «namespace» = some si →
    si.name = secret_name ∧ si.«namespace» = «namespace»

/-- Every saved secret is under its own name. -/
def IR.SavedUnderName (ir : IR) : Prop :=
  ∀ k ss, ir.saved_secrets.get? k = some ss → ss.secret_name = k

/-- No saved secret is under a name with a dot. -/
def IR.SavedDotFree (ir : IR) : Prop :=
  ∀ k ss, ir.saved_secrets.get? k = some ss → '.' ∉ k

@[simp] theorem from_aconf_secret_name (decode : Key → Option Key) (s : AConfSecret) :
    (SecretInfo.from_aconf_secret decode s).name = s.name := rfl

@[simp] theorem from_aconf_secret_namespace (decode : Key → Option Key) (s : AConfSecret) :
    (SecretInfo.from_aconf_secret decode s).«namespace» = s.«namespace» := rfl

/-- One pass of `save_secret_info` keeps the secret info well formed. -/
theorem save_secret_step_wf (decode : Key → Option Key) {info : Dict Key SecretInfo}
    (hwf : InfoWF info) {s : AConfSecret} (hs : '.' ∉ s.«namespace») :
    InfoWF (save_secret_step decode info s) := by
  unfold save_secret_step
  split
  · constructor
    · intro k si hk
      rw [Dict.get?_set] at hk
      split at hk
      · rename_i hkey
        cases hk
        exact hkey.symm
      · exact hwf.keyed k si hk
    · intro k si hk
      rw [Dict.get?_set] at hk
      split at hk
      · cases hk
        simpa using hs
      · exact hwf.namespaces k si hk
  · exact hwf

/-- The loop of `save_secret_info` keeps the secret info well formed, for
secrets in Kubernetes namespaces. -/
theorem foldl_save_secret_step_wf (decode : Key → Option Key) :
    ∀ {info : Dict Key SecretInfo} {aconf_secrets : List AConfSecret}, InfoWF info →
      (∀ s ∈ aconf_secrets, '.' ∉ s.«namespace») →
      InfoWF (aconf_secrets.foldl (save_secret_step decode) info)
  | _, [], hwf, _ => hwf
  | info, s :: rest, hwf, hs =>
    @foldl_save_secret_step_wf decode (save_secret_step decode info s) rest
      (save_secret_step_wf decode hwf (hs s List.mem_cons_self))
      (fun t ht => hs t (List.mem_cons_of_mem s ht))

/-- `save_secret_info` leaves the secret info well formed when every secret's
namespace is a Kubernetes one. -/
theorem save_secret_info_wf (decode : Key → Option Key) {ir : IR} {aconf_secrets : List AConfSecret}
    (hwf : InfoWF ir.secret_info) (hs : ∀ s ∈ aconf_secrets, '.' ∉ s.«namespace») :
    InfoWF (ir.save_secret_info decode aconf_secrets).secret_info :=
  foldl_save_secret_step_wf decode hwf hs

section Run

variable {handler : SecretHandler} {hexdigest : Key → Key}

/-- The secret info under `name.namespace`, for a Kubernetes namespace, is
the secret of that name and namespace. -/
theorem InfoWF.names {info : Dict Key SecretInfo} (hwf : InfoWF info) {secret_name «namespace» : Key}
    {si : SecretInfo} (hns : '.' ∉ «namespace») (hsi : info.get? (ssKey secret_name «namespace») = some si) :
    si.name = secret_name ∧ si.«namespace» = «namespace» :=
  Text.append_cons_cancel_of_not_mem_right (hwf.namespaces _ si hsi) hns (hwf.keyed _ si hsi)

/-- The secret found after a miss, in the secret info or by the handler, is
the one asked for. -/
theorem found_names {info : Dict Key SecretInfo} (hwf : InfoWF info) (hload : handler.LoadsRequested)
    {secret_name «namespace» : Key} {si : SecretInfo} (hns : '.' ∉ «namespace»)
    (hsi : (info.get? (ssKey secret_name «namespace»)).or
      (handler.load_secret secret_name «namespace») = some si) :
    si.name = secret_name ∧ si.«namespace» = «namespace» := by
  cases hinfo : info.get? (ssKey secret_name «namespace») with
  | some si' =>
    rw [hinfo, Option.some_or] at hsi
    cases hsi
    exact hwf.names hns hinfo
  | none =>
    rw [hinfo, Option.none_or] at hsi
    exact hload _ _ si hsi

variable {ir ir' : IR} {secret_name «namespace» : Key} {ss : SavedSecret}

/-- A call leaves the secret info alone. -/
theorem resolve_secret_secret_info (h : ir.resolve_secret handler hexdigest secret_name «namespace» = (ss, ir')) :
    ir'.secret_info = ir.secret_info := by
  rcases resolve_secret_cases h with ⟨-, -, rfl⟩ | ⟨-, rfl⟩ | ⟨si, -, -, rfl⟩ <;> rfl

/-- What a call returns: the secret asked for, or the secret saved under
`name.namespace`. -/
theorem resolve_secret_names (hwf : InfoWF ir.secret_info) (hload : handler.LoadsRequested)
    (hns : '.' ∉ «namespace»)
    (h : ir.resolve_secret handler hexdigest secret_name «namespace» = (ss, ir')) :
    (ss.secret_name = secret_name ∧ ss.«namespace» = «namespace») ∨
      ir.saved_secrets.get? (ssKey secret_name «namespace») = some ss := by
  rcases resolve_secret_cases h with ⟨hget, -, -⟩ | ⟨rfl, -⟩ | ⟨si, hsi, rfl, -⟩
  · exact .inr hget
  · exact .inl ⟨rfl, rfl⟩
  · exact .inl (by simpa [SecretHandler.cache_secret] using found_names hwf hload hns hsi)

/-- The secret saved under `name.namespace`, when every secret is saved under
its own name, is named `name.namespace`: not the name asked for. -/
theorem resolve_secret_of_hit (hsaved : ir.SavedUnderName)
    (hget : ir.saved_secrets.get? (ssKey secret_name «namespace») = some ss) :
    ss.secret_name = ssKey secret_name «namespace» ∧ ss.secret_name ≠ secret_name := by
  have hname : ss.secret_name = ssKey secret_name «namespace» := hsaved _ ss hget
  refine ⟨hname, fun heq => ?_⟩
  have hlen : (ssKey secret_name «namespace»).length = secret_name.length + 1 + «namespace».length := by
    simp [ssKey]
    omega
  have := congrArg List.length (hname.symm.trans heq)
  omega

/-- One call keeps every saved secret under its own name. -/
theorem resolve_secret_saved_under_name (hwf : InfoWF ir.secret_info) (hload : handler.LoadsRequested)
    (hns : '.' ∉ «namespace») (hsaved : ir.SavedUnderName)
    (h : ir.resolve_secret handler hexdigest secret_name «namespace» = (ss, ir')) :
    ir'.SavedUnderName := by
  rcases resolve_secret_cases h with ⟨-, -, rfl⟩ | ⟨-, rfl⟩ | ⟨si, hsi, rfl, rfl⟩
  · exact hsaved
  · exact hsaved
  · intro k ss' hk
    rw [Dict.get?_set] at hk
    split at hk
    · rename_i hkey
      cases hk
      rw [hkey]
      simpa [SecretHandler.cache_secret] using (found_names hwf hload hns hsi).1
    · exact hsaved k ss' hk

/-- One call with a name free of dots saves nothing under a name with one. -/
theorem resolve_secret_saved_dot_free (hname : '.' ∉ secret_name) (hfree : ir.SavedDotFree)
    (h : ir.resolve_secret handler hexdigest secret_name «namespace» = (ss, ir')) :
    ir'.SavedDotFree := by
  rcases resolve_secret_cases h with ⟨-, -, rfl⟩ | ⟨-, rfl⟩ | ⟨si, -, rfl, rfl⟩
  · exact hfree
  · exact hfree
  · intro k ss' hk
    rw [Dict.get?_set] at hk
    split at hk
    · rename_i hkey
      rw [hkey]
      exact hname
    · exact hfree k ss' hk

theorem resolve_secrets_cons {calls : List (Key × Key)}
    (h : ir.resolve_secret handler hexdigest secret_name «namespace» = (ss, ir')) :
    IR.resolve_secrets handler hexdigest ir ((secret_name, «namespace») :: calls) =
      (ss :: (IR.resolve_secrets handler hexdigest ir' calls).1,
        (IR.resolve_secrets handler hexdigest ir' calls).2) := by
  rw [IR.resolve_secrets, h]

/-! ### Runs -/

/-- Along any run of calls with Kubernetes namespaces, every saved secret
stays under its own name. -/
theorem resolve_secrets_saved_under_name (hload : handler.LoadsRequested) :
    ∀ {ir : IR} {calls : List (Key × Key)}, InfoWF ir.secret_info → (∀ c ∈ calls, '.' ∉ c.2) →
      ir.SavedUnderName → (IR.resolve_secrets handler hexdigest ir calls).2.SavedUnderName
  | _, [], _, _, hsaved => hsaved
  | ir, (secret_name, «namespace») :: calls, hwf, hns, hsaved => by
    rcases h : ir.resolve_secret handler hexdigest secret_name «namespace» with ⟨ss, ir'⟩
    have hwf' : InfoWF ir'.secret_info := by
      rw [resolve_secret_secret_info h]
      exact hwf
    rw [resolve_secrets_cons h]
    exact resolve_secrets_saved_under_name hload hwf' (fun c hc => hns c (List.mem_cons_of_mem _ hc))
      (resolve_secret_saved_under_name hwf hload (hns _ List.mem_cons_self) hsaved h)

/-- Where no name and no namespace has a dot, every call of a run returns the
secret it asked for: no lookup hits the store. -/
theorem resolve_secrets_names (hload : handler.LoadsRequested) :
    ∀ {ir : IR} {calls : List (Key × Key)}, InfoWF ir.secret_info → ir.SavedDotFree →
      (∀ c ∈ calls, '.' ∉ c.1 ∧ '.' ∉ c.2) →
      (IR.resolve_secrets handler hexdigest ir calls).1.map
        (fun ss => (ss.secret_name, ss.«namespace»)) = calls
  | _, [], _, _, _ => rfl
  | ir, (secret_name, «namespace») :: calls, hwf, hfree, hdots => by
    rcases h : ir.resolve_secret handler hexdigest secret_name «namespace» with ⟨ss, ir'⟩
    obtain ⟨hname, hns⟩ := hdots _ List.mem_cons_self
    -- the store has nothing under `name.namespace`, which has a dot
    have hasked : ss.secret_name = secret_name ∧ ss.«namespace» = «namespace» := by
      rcases resolve_secret_names hwf hload hns h with hasked | hget
      · exact hasked
      · exact absurd (List.mem_append_right _ List.mem_cons_self) (hfree _ ss hget)
    have hwf' : InfoWF ir'.secret_info := by
      rw [resolve_secret_secret_info h]
      exact hwf
    rw [resolve_secrets_cons h, List.map_cons, hasked.1, hasked.2,
      resolve_secrets_names hload hwf' (resolve_secret_saved_dot_free hname hfree h)
        (fun c hc => hdots c (List.mem_cons_of_mem _ hc))]

end Run

/-! ### A secret served for another name and namespace -/

/-- `os.path.join` onto a non-empty path is not empty. -/
theorem pathJoin_ne_nil (a : Key) {b : Key} (hb : b ≠ []) : pathJoin a b ≠ [] := by
  unfold pathJoin
  split
  · exact hb
  · split <;> simp [hb]

/-- A secret with a certificate is saved as a true `SavedSecret`. -/
theorem cache_secret_truthy (handler : SecretHandler) (hexdigest : Key → Key) {si : SecretInfo}
    (hcrt : truthy si.tls_crt) : (handler.cache_secret hexdigest si).truthy := by
  unfold SecretHandler.cache_secret SecretHandler.cache_internal
  rw [if_pos (by simp [hcrt])]
  simp only [SavedSecret.truthy, if_pos hcrt, Option.isSome_some, Bool.and_true, Bool.or_eq_true]
  left
  simp [truthy, pathJoin_ne_nil]

/-- A TLS secret `foo.bar` in namespace `x`, as watt hands it in. -/
def fooBarSecret : AConfSecret :=
  { name := "foo.bar".toList, «namespace» := "x".toList, secret_type := "kubernetes.io/tls".toList,
    tls_crt := some "-----BEGIN CERTIFICATE-----".toList }

theorem resolve_secrets_serves_other_namespace (decode : Key → Option Key) (handler : SecretHandler)
    (hexdigest : Key → Key) :
    (IR.resolve_secrets handler hexdigest (IR.empty.save_secret_info decode [fooBarSecret])
        [("foo.bar".toList, "x".toList), ("foo".toList, "bar".toList)]).1.map
      (fun ss => (ss.secret_name, ss.«namespace»)) =
      [("foo.bar".toList, "x".toList), ("foo.bar".toList, "x".toList)] := by
  have hsi : (IR.empty.save_secret_info decode [fooBarSecret]).secret_info.get?
      (ssKey "foo.bar".toList "x".toList) = some (SecretInfo.from_aconf_secret decode fooBarSecret) := by
    show (save_secret_step decode ∅ fooBarSecret).get? _ = _
    unfold save_secret_step
    rw [if_pos (by decide : fooBarSecret.has_public_half = true)]
    exact Dict.get?_set_self _ _ _
  -- the first call finds the secret info and saves the secret under `foo.bar`
  have h₁ := @resolve_secret_of_info handler hexdigest _ _ _ _ (Dict.get?_empty _) hsi
  -- the second call looks up `foo` in `bar` as `foo.bar`, and finds it
  have hkey : ssKey "foo".toList "bar".toList = "foo.bar".toList := by decide
  have hcrt : truthy (SecretInfo.from_aconf_secret decode fooBarSecret).tls_crt := rfl
  have h₂ := @resolve_secret_of_saved handler hexdigest
    ⟨(IR.empty.save_secret_info decode [fooBarSecret]).saved_secrets.set "foo.bar".toList
        (handler.cache_secret hexdigest (SecretInfo.from_aconf_secret decode fooBarSecret)),
      (IR.empty.save_secret_info decode [fooBarSecret]).secret_info⟩
    "foo".toList "bar".toList _ (by rw [hkey]; exact Dict.get?_set_self _ _ _)
    (cache_secret_truthy handler hexdigest hcrt)
  rw [resolve_secrets_cons h₁, resolve_secrets_cons h₂]
  simp only [IR.resolve_secrets, List.map_cons, List.map_nil, SecretHandler.cache_secret,
    cache_internal_secret_name, cache_internal_namespace, from_aconf_secret_name,
    from_aconf_secret_namespace]
  rfl

end SavedSecrets
end Emissary
