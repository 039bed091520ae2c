import KuryrKubernetes.Handlers.MultiVif

/-!
# The networks that a pod names

The networks annotation is a JSON list, or a text with commas between `name` and `namespace/name`.
What `request_additional_vifs` looks up is one network attachment definition after the other, each
under a namespace and a name.  Here the texts are read character by character, and JSON may also be
no list at all.
-/

namespace KuryrKubernetes.Handlers

open KuryrKubernetes.Data

/-! ## The annotation -/

/-- What `jsonutils.loads` makes of a text: an error, as it is not JSON; a list of networks; or
something else, over which the loop raises, unless `not networks` holds of it. -/
inductive LoadedNetworks where
  | notJson
  | networks (networks : List NetworkElement)
  | other (raises : Option PyException)

/-- `jsonutils.loads`.  A list of JSON has brackets. -/
structure NetworksLoader where
  loads : String → LoadedNetworks
  bracketed : ∀ text networks, loads text = .networks networks → '[' ∈ text.toList

/-- `split` of a text. -/
def split (separator : Char) (text : String) : List String :=
  (text.toList.splitOn separator).map String.ofList

/-- One entry of the text notation: `name` or `namespace/name`. -/
def splitNetwork (net : String) : Except PyException NetworkElement :=
  match split '/' net with
  | [name] => .ok { name := some name }
  | [namespaceName, name] => .ok { name := some name, namespaceName := some namespaceName }
  | _ => .error PyException.invalidKuryrNetworkAnnotation

namespace NetworksLoader

variable (loader : NetworksLoader)

/-- `_get_networks`, for the text of the annotation. -/
def getNetworks (text : String) : Except PyException (List NetworkElement) :=
  match loader.loads text with
  | .networks networks => .ok networks
  | .other none => .ok []
  | .other (some exception) => .error exception
  | .notJson => (split ',' text).mapM splitNetwork

end NetworksLoader

/-! ## What is looked up -/

/-- The network attachment definitions that the loop looks up, from a network on: it ends at a
network without a name and after the first turn that raises. -/
def lookups (answers : NpwgAnswers) :
    Nat → String → List NetworkElement → List (String × String)
  | _, _, [] => []
  | position, namespaceName, network :: rest =>
      match network.name with
      | none => []
      | some name =>
          (network.namespaceName.getD namespaceName, name) ::
            match networkAnswer answers position namespaceName network with
            | .error _ => []
            | .ok _ =>
                lookups answers (position + 1) (network.namespaceName.getD namespaceName) rest

/-- What `request_additional_vifs` looks up for a pod with the annotation. -/
def NetworksLoader.lookups (loader : NetworksLoader) (answers : NpwgAnswers)
    (namespaceName annotation : String) : List (String × String) :=
  match loader.getNetworks annotation with
  | .error _ => []
  | .ok networks => Handlers.lookups answers 0 namespaceName networks

/-- What is to be looked up: each network in the namespace that it names, or in that of the pod. -/
def ownLookups (namespaceName : String) : List NetworkElement → List (String × String)
  | [] => []
  | network :: rest =>
      match network.name with
      | none => []
      | some name =>
          (network.namespaceName.getD namespaceName, name) :: ownLookups namespaceName rest

/-- A turn of the loop that looks up a definition. -/
def lookupAnswer (answers : NpwgAnswers) (position : Nat) (lookup : String × String) :
    Except PyException (Option Vif) := do
  let config ← answers.getNad lookup.1 lookup.2
  let subnetId ← chooseSubnet answers config
  let _ ← answers.getSubnet subnetId
  answers.requestVif position

/-- No turn of the loop raises, but for a network without a name. -/
def NpwgAnswers.Serves (answers : NpwgAnswers) : Prop :=
  ∀ position namespaceName network, NetworkElement.name network ≠ none →
    ∃ vif, networkAnswer answers position namespaceName network = .ok vif

/-- Each network is looked up where it is to be, whatever the answers, and all of them are if
nothing fails. -/
structure LooksUpOwn (namespaceName : String) (networks : List NetworkElement) : Prop where
  each : ∀ answers, lookups answers 0 namespaceName networks <+: ownLookups namespaceName networks
  all : ∀ answers : NpwgAnswers, answers.Serves →
    lookups answers 0 namespaceName networks = ownLookups namespaceName networks

/-- A network that names no namespace comes only after networks the last of which, of those that
name one, names that of the pod. -/
def NamesOwn (namespaceName : String) (networks : List NetworkElement) : Prop :=
  ∀ before network after, networks = before ++ network :: after →
    (∀ earlier ∈ before, earlier.name ≠ none) → network.name ≠ none →
    network.namespaceName = none →
    ∀ named, (before.filterMap (·.namespaceName)).getLast? = some named → named = namespaceName

/-- Two annotations lead to the same lookups. -/
def SameLookups (loader : NetworksLoader) (first second : String) : Prop :=
  ∀ answers namespaceName,
    loader.lookups answers namespaceName first = loader.lookups answers namespaceName second

/-- The turns of `request_additional_vifs` are those of the lookups. -/
theorem networkAnswers_of_lookups {answers : NpwgAnswers} {position index : Nat}
    {namespaceName : String} {networks : List NetworkElement} {lookup : String × String}
    (looked : (lookups answers position namespaceName networks)[index]? = some lookup) :
    (networkAnswers answers position namespaceName networks)[index]? =
      some (lookupAnswer answers (position + index) lookup) := by
  induction networks generalizing position index namespaceName with
  | nil => cases looked
  | cons network rest ih =>
      unfold lookups at looked
      unfold networkAnswers
      cases named : network.name with
      | none =>
          rw [named] at looked
          cases looked
      | some name =>
          rw [named] at looked
          dsimp only at looked
          cases index with
          | zero =>
              cases looked
              unfold networkAnswer
              rw [named]
              rfl
          | succ index =>
              rw [List.getElem?_cons_succ] at looked ⊢
              split at looked
              · cases looked
              · rw [ih looked, Nat.add_right_comm, Nat.add_assoc]

/-! ## The namespace in force -/

/-- The condition along the loop, with the namespace that is in force. -/
def KeepsOwn (own : String) : String → List NetworkElement → Prop
  | _, [] => True
  | inForce, network :: rest =>
      network.name ≠ none →
        (network.namespaceName = none → inForce = own) ∧
          KeepsOwn own (network.namespaceName.getD inForce) rest

section

variable {answers : NpwgAnswers} {own inForce : String} {network : NetworkElement}
  {networks : List NetworkElement}

theorem getD_eq_iff : network.namespaceName.getD inForce = network.namespaceName.getD own ↔
    (network.namespaceName = none → inForce = own) := by
  cases network.namespaceName with
  | none => exact ⟨fun same _ => same, fun same => same rfl⟩
  | some named => exact ⟨fun _ => by rintro ⟨⟩, fun _ => rfl⟩

theorem lookups_prefix (keeps : KeepsOwn own inForce networks) (position : Nat) :
    lookups answers position inForce networks <+: ownLookups own networks := by
  induction networks generalizing inForce position with
  | nil => exact List.prefix_rfl
  | cons network rest ih =>
      unfold lookups ownLookups
      cases named : network.name with
      | none => exact List.prefix_rfl
      | some name =>
          obtain ⟨here, later⟩ := keeps (named ▸ Option.some_ne_none name)
          dsimp only
          rw [getD_eq_iff.mpr here] at later ⊢
          apply List.cons_prefix_cons.mpr ⟨rfl, _⟩
          split
          · exact List.nil_prefix
          · exact ih later (position + 1)

/-- If nothing fails, the lookups are as they are to be exactly where the condition holds. -/
theorem lookups_eq_iff (serves : answers.Serves) (position : Nat) :
    lookups answers position inForce networks = ownLookups own networks ↔
      KeepsOwn own inForce networks := by
  induction networks generalizing inForce position with
  | nil => exact ⟨fun _ => trivial, fun _ => rfl⟩
  | cons network rest ih =>
      unfold lookups ownLookups KeepsOwn
      cases named : network.name with
      | none => exact ⟨fun _ isNamed => absurd rfl isNamed, fun _ => rfl⟩
      | some name =>
          obtain ⟨vif, served⟩ := serves position inForce network
            (named ▸ Option.some_ne_none name)
          dsimp only
          rw [served]
          dsimp only
          rw [List.cons.injEq, Prod.mk.injEq, getD_eq_iff, ih (position + 1)]
          constructor
          · rintro ⟨⟨here, _⟩, later⟩ _
            exact ⟨here, later⟩
          · intro keeps
            obtain ⟨here, later⟩ := keeps (Option.some_ne_none name)
            exact ⟨⟨here, rfl⟩, later⟩

/-- The namespace in force is the last one that was named, or the one at the start. -/
theorem keepsOwn_iff : KeepsOwn own inForce networks ↔
    ∀ before network after, networks = before ++ network :: after →
      (∀ earlier ∈ before, earlier.name ≠ none) → network.name ≠ none →
      network.namespaceName = none →
      (before.filterMap (·.namespaceName)).getLast?.getD inForce = own := by
  induction networks generalizing inForce with
  | nil =>
      constructor
      · rintro _ before network after impossible
        exact absurd impossible (by simp)
      · exact fun _ => trivial
  | cons first rest ih =>
      have inForceNext (before : List NetworkElement) :
          ((first :: before).filterMap (·.namespaceName)).getLast?.getD inForce =
            (before.filterMap (·.namespaceName)).getLast?.getD
              (first.namespaceName.getD inForce) := by
        cases named : first.namespaceName with
        | none => rw [List.filterMap_cons_none named, Option.getD_none]
        | some namespaceName =>
            rw [List.filterMap_cons_some named, List.getLast?_cons, Option.getD_some]
            rfl
      constructor
      · intro keeps before network after split allNamed isNamed unnamed
        cases before with
        | nil =>
            cases split
            exact (keeps isNamed).1 unnamed
        | cons earlier before =>
            cases split
            rw [inForceNext]
            have firstNamed := allNamed first List.mem_cons_self
            exact ih.mp (keeps firstNamed).2 before network after rfl
              (fun other listed => allNamed other (List.mem_cons_of_mem _ listed)) isNamed unnamed
      · intro all firstNamed
        constructor
        · exact all [] first rest rfl (by rintro _ ⟨⟩) firstNamed
        · apply ih.mpr
          intro before network after split allNamed isNamed unnamed
          rw [← inForceNext]
          apply all (first :: before) network after (by rw [split]; rfl) _ isNamed unnamed
          exact List.forall_mem_cons.mpr ⟨firstNamed, allNamed⟩

theorem namesOwn_iff : NamesOwn own networks ↔ KeepsOwn own own networks := by
  rw [keepsOwn_iff]
  unfold NamesOwn
  have last (names : List String) :
      (∀ named, names.getLast? = some named → named = own) ↔ names.getLast?.getD own = own := by
    cases names.getLast? with
    | none => exact ⟨fun _ => rfl, fun _ _ => by rintro ⟨⟩⟩
    | some named =>
        constructor
        · exact fun all => all named rfl
        · rintro same _ ⟨⟩
          exact same
  simp only [last]

/-- The answers of a cluster where everything is found. -/
def allFound : NpwgAnswers where
  requestVif _ := .ok none

theorem allFound_serves : allFound.Serves := by
  intro position namespaceName network isNamed
  unfold networkAnswer
  cases named : network.name with
  | none => exact absurd named isNamed
  | some name => exact ⟨none, rfl⟩

/-- Every network is looked up where it is to be if and only if no network inherits another
namespace. -/
theorem looksUpOwn_iff : LooksUpOwn own networks ↔ NamesOwn own networks := by
  rw [namesOwn_iff]
  constructor
  · exact fun looks => (lookups_eq_iff allFound_serves 0).mp (looks.all allFound allFound_serves)
  · intro keeps
    exact ⟨fun answers => lookups_prefix keeps 0, fun answers serves =>
      (lookups_eq_iff serves 0).mpr keeps⟩

end

/-! ## Two notations -/

/-- A name of Kubernetes: letters, digits, hyphens and dots. -/
abbrev ResourceName :=
  { text : String // ∀ c ∈ text.toList, c.isAlphanum ∨ c = '-' ∨ c = '.' }

/-- A network in a list, with its namespace, if it is named. -/
structure NetworkName where
  namespaceName : Option ResourceName := none
  name : ResourceName

/-- `name` or `namespace/name`. -/
def NetworkName.text (network : NetworkName) : List Char :=
  match network.namespaceName with
  | none => network.name.val.toList
  | some namespaceName => namespaceName.val.toList ++ '/' :: network.name.val.toList

/-- The element for a network. -/
def NetworkName.element (network : NetworkName) : NetworkElement where
  name := some network.name
  namespaceName := network.namespaceName.map Subtype.val

/-- Networks that can be written in both notations: the text for none names one. -/
structure NetworkNames where
  networks : List NetworkName
  some_ : networks ≠ []

namespace NetworkNames

variable (names : NetworkNames)

/-- The text with commas. -/
def text : String :=
  String.ofList ([','].intercalate (names.networks.map NetworkName.text))

/-- What the JSON list is loaded as. -/
def elements : List NetworkElement :=
  names.networks.map NetworkName.element

end NetworkNames

section

theorem plain_of_resourceName (name : ResourceName) :
    ',' ∉ name.val.toList ∧ '/' ∉ name.val.toList ∧ '[' ∉ name.val.toList := by
  refine ⟨?_, ?_, ?_⟩
  · intro listed
    exact absurd (name.property ',' listed) (by decide)
  · intro listed
    exact absurd (name.property '/' listed) (by decide)
  · intro listed
    exact absurd (name.property '[' listed) (by decide)

theorem plain_of_networkName (network : NetworkName) :
    ',' ∉ network.text ∧ '[' ∉ network.text := by
  obtain ⟨comma, slash, bracket⟩ := plain_of_resourceName network.name
  unfold NetworkName.text
  cases network.namespaceName with
  | none => exact ⟨comma, bracket⟩
  | some namespaceName =>
      obtain ⟨commaToo, _, bracketToo⟩ := plain_of_resourceName namespaceName
      constructor
      · intro listed
        rcases List.mem_append.mp listed with first | second
        · exact commaToo first
        · exact comma ((List.mem_cons.mp second).resolve_left (by decide))
      · intro listed
        rcases List.mem_append.mp listed with first | second
        · exact bracketToo first
        · exact bracket ((List.mem_cons.mp second).resolve_left (by decide))

theorem splitNetwork_text (network : NetworkName) :
    splitNetwork (String.ofList network.text) = .ok network.element := by
  have slash := (plain_of_resourceName network.name).2.1
  unfold splitNetwork split NetworkName.text NetworkName.element
  rw [String.toList_ofList]
  cases network.namespaceName with
  | none =>
      dsimp only
      rw [List.splitOn_eq_singleton slash]
      simp
  | some namespaceName =>
      have slashToo := (plain_of_resourceName namespaceName).2.1
      dsimp only
      rw [List.splitOn_append_cons_self_of_not_mem slashToo, List.splitOn_eq_singleton slash]
      simp

theorem mapM_splitNetwork (networks : List NetworkName) :
    (networks.map fun network => String.ofList network.text).mapM splitNetwork =
      .ok (networks.map NetworkName.element) := by
  induction networks with
  | nil => rfl
  | cons network rest ih =>
      rw [List.map_cons, List.mapM_cons, splitNetwork_text, ih]
      rfl

/-- A text that is not JSON is read as the list that it notes. -/
theorem getNetworks_text {loader : NetworksLoader} {names : NetworkNames}
    (plain : loader.loads names.text = .notJson) :
    loader.getNetworks names.text = .ok names.elements := by
  have parts : split ',' names.text =
      names.networks.map fun network => String.ofList network.text := by
    have apart : ∀ text ∈ names.networks.map NetworkName.text, ',' ∉ text := by
      intro text listed
      obtain ⟨network, _, rfl⟩ := List.mem_map.mp listed
      exact (plain_of_networkName network).1
    have several : names.networks.map NetworkName.text ≠ [] := by
      simpa using names.some_
    unfold split NetworkNames.text
    rw [String.toList_ofList, List.splitOn_intercalate _ apart several, List.map_map]
    rfl
  unfold NetworksLoader.getNetworks
  rw [plain]
  dsimp only
  rw [parts]
  exact mapM_splitNetwork names.networks

/-- The text of a list is no list of JSON. -/
theorem not_networks_text (loader : NetworksLoader) (names : NetworkNames)
    (networks : List NetworkElement) : loader.loads names.text ≠ .networks networks := by
  intro loaded
  have bracketed := loader.bracketed _ _ loaded
  unfold NetworkNames.text at bracketed
  rw [String.toList_ofList] at bracketed
  have plain (texts : List (List Char)) (apart : ∀ text ∈ texts, '[' ∉ text) :
      '[' ∉ [','].intercalate texts := by
    induction texts with
    | nil => exact List.not_mem_nil
    | cons text texts ih =>
        obtain ⟨first, others⟩ := List.forall_mem_cons.mp apart
        cases texts with
        | nil => simpa using first
        | cons next texts =>
            rw [List.intercalate_cons_cons]
            intro listed
            rcases List.mem_append.mp listed with before | later
            · rcases List.mem_append.mp before with inText | comma
              · exact first inText
              · exact absurd (List.mem_singleton.mp comma) (by decide)
            · exact ih others later
  apply plain _ _ bracketed
  intro text listed
  obtain ⟨network, _, rfl⟩ := List.mem_map.mp listed
  exact (plain_of_networkName network).2

/-- Both notations of a list lead to the same lookups if and only if its text is not JSON. -/
theorem sameLookups_iff {loader : NetworksLoader} {names : NetworkNames} {json : String}
    (loaded : loader.loads json = .networks names.elements) :
    SameLookups loader names.text json ↔ loader.loads names.text = .notJson := by
  have fromJson : loader.getNetworks json = .ok names.elements := by
    unfold NetworksLoader.getNetworks
    rw [loaded]
  constructor
  · intro same
    have looksUp : loader.lookups allFound "" json ≠ [] := by
      unfold NetworksLoader.lookups
      rw [fromJson]
      unfold NetworkNames.elements
      cases networks : names.networks with
      | nil => exact absurd networks names.some_
      | cons network rest => exact List.cons_ne_nil _ _
    rw [← same] at looksUp
    unfold NetworksLoader.lookups NetworksLoader.getNetworks at looksUp
    cases text : loader.loads names.text with
    | notJson => rfl
    | networks networks => exact absurd text (not_networks_text loader names networks)
    | other raises =>
        rw [text] at looksUp
        cases raises with
        | none => exact absurd rfl looksUp
        | some exception => exact absurd rfl looksUp
  · intro plain answers namespaceName
    unfold NetworksLoader.lookups
    rw [fromJson, getNetworks_text plain]

end

/-- What `request_additional_vifs` is to look up for a pod with the annotation: its networks, each
in its own namespace or in that of the pod. -/
def ResolvesOwn (loader : NetworksLoader) (namespaceName annotation : String) : Prop :=
  ∀ networks, loader.getNetworks annotation = .ok networks → LooksUpOwn namespaceName networks

/-- For every annotation, each network is looked up where it is to be if and only if none inherits
another namespace; and both notations of a list lead to the same lookups if and only if its text is
not JSON. -/
theorem request_additional_vifs_resolves_iff (loader : NetworksLoader)
    (namespaceName annotation : String) (names : NetworkNames) (json : String)
    (loaded : loader.loads json = .networks names.elements) :
    (ResolvesOwn loader namespaceName annotation ↔
      ∀ networks, loader.getNetworks annotation = .ok networks →
        NamesOwn namespaceName networks) ∧
    (SameLookups loader names.text json ↔ loader.loads names.text = .notJson) := by
  constructor
  · unfold ResolvesOwn
    simp only [looksUpOwn_iff]
  · exact sameLookups_iff loaded

/-- A loader that takes one text for a list of networks, and knows that a number is JSON. -/
def loadsOne (json : String) (networks : List NetworkElement) (bracketed : '[' ∈ json.toList) :
    NetworksLoader where
  loads text :=
    if text = json then .networks networks
    else if text = "7" then .other (some .typeError)
    else .notJson
  bracketed text others loaded := by
    split at loaded
    · rename_i same
      rw [same]
      exact bracketed
    · split at loaded
      · cases loaded
      · cases loaded

/-- A list with one network. -/
def justOne (name : ResourceName) : NetworkNames where
  networks := [{ name := name }]
  some_ := List.cons_ne_nil _ _

/-- A list of the network `web` in JSON. -/
def jsonOfWeb : String := "[\x7b\"name\": \"web\"\x7d]"

theorem isAlphanum_web : ∀ c ∈ "web".toList, c.isAlphanum ∨ c = '-' ∨ c = '.' := by
  have letters : "web".toList = ['w', 'e', 'b'] := rfl
  rw [letters]
  simp only [List.forall_mem_cons]
  exact ⟨.inl rfl, .inl rfl, .inl rfl, List.forall_mem_nil _⟩

/-- The network `web`. -/
def justWeb : NetworkNames := justOne ⟨"web", isAlphanum_web⟩

theorem request_additional_vifs_resolves_web :
    ResolvesOwn (loadsOne jsonOfWeb justWeb.elements (by decide)) "default" jsonOfWeb ∧
      SameLookups (loadsOne jsonOfWeb justWeb.elements (by decide)) justWeb.text jsonOfWeb := by
  have loaded : (loadsOne jsonOfWeb justWeb.elements (by decide)).loads jsonOfWeb =
      .networks justWeb.elements := rfl
  obtain ⟨resolves, same⟩ := request_additional_vifs_resolves_iff _ "default" jsonOfWeb _ _ loaded
  constructor
  · apply resolves.mpr
    rintro _ ⟨⟩
    exact namesOwn_iff.mpr fun _ => ⟨fun _ => rfl, trivial⟩
  · exact same.mpr rfl

/-- A list of a network in JSON that has a number for its name. -/
def jsonOfSeven : String := "[\x7b\"name\": \"7\"\x7d]"

theorem isAlphanum_seven : ∀ c ∈ "7".toList, c.isAlphanum ∨ c = '-' ∨ c = '.' := by
  have digits : "7".toList = ['7'] := rfl
  rw [digits]
  simp only [List.forall_mem_cons]
  exact ⟨.inl rfl, List.forall_mem_nil _⟩

/-- The network `7`. -/
def justSeven : NetworkNames := justOne ⟨"7", isAlphanum_seven⟩

/-- The second network is looked up in the namespace of the first, and the text for a list is
taken for a number. -/
theorem request_additional_vifs_inherits_namespace :
    ¬ResolvesOwn (loadsOne jsonOfSeven justSeven.elements (by decide)) "default"
        "other/first,second" ∧
      ¬SameLookups (loadsOne jsonOfSeven justSeven.elements (by decide)) justSeven.text
        jsonOfSeven := by
  constructor
  · intro resolves
    have looks := (resolves [⟨some "first", some "other"⟩, ⟨some "second", none⟩] rfl).all
      allFound allFound_serves
    exact absurd looks (by decide)
  · intro same
    exact absurd (same allFound "default") (by decide)

end KuryrKubernetes.Handlers
