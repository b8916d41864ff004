import Mathlib.Data.List.Induction
import Mathlib.Data.List.Nodup
import VpnDirectory.Directory.Selection
import VpnDirectory.Proofs.Collection.Distinct
import VpnDirectory.Proofs.Directory.Order
import VpnDirectory.Proofs.Fallible
import VpnDirectory.Proofs.Gateway

/-!
# Building a directory step by step

A directory comes about in two loops. The first one takes in the entries of a provider and numbers
their hosts; the second one takes up the hosts that a server names, by their numbers. What is asked
of a directory is asked of lists, so both loops are brought into the form of lists here.

* `Directory.WellFormed` : the index is the inverse of the list of gateways, and the order of the
  server holds numbers of gateways, each once. Either step preserves it (`WellFormed.takeIn`,
  `WellFormed.moveUp`), and so every directory that is built has it (`wellFormed_build`).
* `Directory.takeIn_listing`, `Directory.foldl_takeIn` : one entry, and all of them. The gateways
  are those of the entries that give one, the first one for every host.
* `Directory.moveUp_arranged`, `Directory.foldl_moveUp` : one named host, and all of them. The order
  is that of the known hosts, each at its first place, and its gateways have the loads that are
  named first.
* `Directory.build_eq` : what both loops come to.
-/

namespace VpnDirectory

/-- The number of a key among numbered keys is its first place. -/
theorem lookup_zipIdx (keys : List String) (key : String) (n : Nat) :
    (keys.zipIdx n).lookup key = if key ∈ keys then some (n + keys.idxOf key) else none := by
  induction keys generalizing n with
  | nil => rfl
  | cons k keys ih =>
    rw [List.zipIdx_cons, lookup_cons, ih, List.idxOf_cons]
    by_cases hk : key = k
    · simp [hk]
    · have hne : (k == key) = false := by simpa using Ne.symm hk
      rw [if_neg hk, hne]
      by_cases hmem : key ∈ keys
      · simp [hmem, hk]
        omega
      · simp [hmem, hk]

namespace Directory

variable {provider : Provider} {preferences : Preferences} {clientTimezone : Int}
variable {d : Directory} {g : Gateway} {gs : List Gateway} {host : String} {i : Nat} {entry : Json}

/-! ### The index and the numbers -/

/-- The first place of a host is that of the gateway with the host. -/
theorem idxOf_host_eq_iff (hnodup : (gs.map (·.host)).Nodup) (hmem : host ∈ gs.map (·.host))
    (hg : gs[i]? = some g) : (gs.map (·.host)).idxOf host = i ↔ g.host = host := by
  have hlt := List.idxOf_lt_length_iff.2 hmem
  obtain ⟨hi, rfl⟩ := List.getElem?_eq_some_iff.1 hg
  constructor
  · rintro rfl
    have hplace := List.getElem_idxOf hlt
    rwa [List.getElem_map] at hplace
  · rintro rfl
    have hplace := hnodup.idxOf_getElem i (by simpa using hi)
    rwa [List.getElem_map] at hplace

/-- No host comes twice, the index numbers the hosts, and the order of the server holds numbers of
gateways, each once. -/
structure WellFormed (d : Directory) : Prop where
  nodup_hosts : (d.gateways.map (·.host)).Nodup
  index_eq : d.index = (d.gateways.map (·.host)).zipIdx
  nodup_presorted : d.presorted.Nodup
  lt_of_mem_presorted : ∀ i ∈ d.presorted, i < d.gateways.length

namespace WellFormed

theorem lookup_index (h : d.WellFormed) (host : String) : d.index.lookup host =
    if host ∈ d.gateways.map (·.host) then some ((d.gateways.map (·.host)).idxOf host)
    else none := by
  rw [h.index_eq, lookup_zipIdx, Nat.zero_add]

theorem lookup_index_eq_some_iff (h : d.WellFormed) :
    d.index.lookup host = some i ↔ ∃ g, d.gateways[i]? = some g ∧ g.host = host := by
  rw [h.lookup_index]
  constructor
  · split
    · next hmem =>
      rintro ⟨rfl⟩
      have hlt := List.idxOf_lt_length_iff.2 hmem
      rw [List.length_map] at hlt
      have hplace := List.getElem?_eq_getElem hlt
      exact ⟨_, hplace, (idxOf_host_eq_iff h.nodup_hosts hmem hplace).1 rfl⟩
    · exact nofun
  · rintro ⟨g, hg, rfl⟩
    have hmem : g.host ∈ d.gateways.map (·.host) := List.mem_map_of_mem (List.mem_of_getElem? hg)
    rw [if_pos hmem, (idxOf_host_eq_iff h.nodup_hosts hmem hg).2 rfl]

/-- An entry that is taken in gets the next number, unless its host has one. -/
theorem takeIn (h : d.WellFormed) (provider : Provider) (entry : Json) :
    (takeIn provider d entry).WellFormed := by
  unfold Directory.takeIn
  split
  · exact h
  · next g hg =>
    split
    · exact h
    · next hnew =>
      have hhost : g.host ∉ d.gateways.map (·.host) := by
        rw [h.lookup_index] at hnew
        exact fun hmem => hnew (by rw [if_pos hmem]; rfl)
      refine ⟨?_, ?_, h.nodup_presorted, fun i hi => ?_⟩
      · rw [List.map_append, List.map_singleton]
        exact h.nodup_hosts.append (List.nodup_singleton _) (by simpa using hhost)
      · rw [List.map_append, List.map_singleton, List.zipIdx_append, ← h.index_eq, List.length_map,
          Nat.zero_add]
        rfl
      · rw [List.length_append]
        exact Nat.lt_add_right _ (h.lt_of_mem_presorted i hi)

theorem hosts_modify (gs : List Gateway) (i : Nat) (load : ReportedLoad) :
    (gs.modify i (·.withLoad load)).map (·.host) = gs.map (·.host) := by
  refine List.ext_getElem? fun j => ?_
  rw [List.getElem?_map, List.getElem?_map, List.getElem?_modify]
  cases gs[j]? with
  | none => rfl
  | some g =>
    change some (if i = j then g.withLoad load else g).host = some g.host
    split <;> rfl

/-- A number that is taken up is that of a gateway, and was not taken up before. -/
theorem moveUp (h : d.WellFormed) (e : NamedHost) : (moveUp d e).WellFormed := by
  unfold Directory.moveUp
  split
  · exact h
  · next i hi =>
    split
    · exact h
    · next hnew =>
      obtain ⟨g, hg, -⟩ := h.lookup_index_eq_some_iff.1 hi
      have hlt := (List.getElem?_eq_some_iff.1 hg).1
      have hnodup : (d.presorted ++ [i]).Nodup :=
        h.nodup_presorted.append (List.nodup_singleton i) (by simpa using hnew)
      have hmem : ∀ j ∈ d.presorted ++ [i], j < d.gateways.length := by
        rw [List.forall_mem_append, List.forall_mem_singleton]
        exact ⟨h.lt_of_mem_presorted, hlt⟩
      cases e.load with
      | none => exact ⟨h.nodup_hosts, h.index_eq, hnodup, hmem⟩
      | some load =>
        refine ⟨?_, ?_, hnodup, by rwa [List.length_modify]⟩
        · rw [hosts_modify]
          exact h.nodup_hosts
        · rw [hosts_modify]
          exact h.index_eq

end WellFormed

theorem wellFormed_build (provider : Provider) (preferences : Preferences) (clientTimezone : Int) :
    (build provider preferences clientTimezone).WellFormed := by
  have hempty : ({ preferences, clientTimezone } : Directory).WellFormed :=
    ⟨List.nodup_nil, rfl, List.nodup_nil, List.forall_mem_nil _⟩
  have htaken := List.foldlRecOn provider.service.gateways (Directory.takeIn provider) hempty
    fun d hd entry _ => hd.takeIn provider entry
  have hmoved := List.foldlRecOn (provider.order.elim [] ServerOrder.hosts) Directory.moveUp htaken
    fun d hd e _ => hd.moveUp e
  exact ⟨hmoved.nodup_hosts, hmoved.index_eq, hmoved.nodup_presorted, hmoved.lt_of_mem_presorted⟩

/-! ### Gateways by their hosts -/

theorem mem_gateways_of_gateway? (h : d.gateway? host = some g) : g ∈ d.gateways := by
  obtain ⟨i, -, hi⟩ := Option.bind_eq_some_iff.1 h
  exact List.mem_of_getElem? hi

namespace WellFormed

/-- A gateway is found under its host and under no other text. -/
theorem gateway?_eq_some_iff (h : d.WellFormed) :
    d.gateway? host = some g ↔ g ∈ d.gateways ∧ g.host = host := by
  rw [gateway?, Option.bind_eq_some_iff]
  constructor
  · rintro ⟨i, hi, hg⟩
    obtain ⟨g', hg', hhost⟩ := h.lookup_index_eq_some_iff.1 hi
    obtain rfl : g' = g := Option.some.inj (hg'.symm.trans hg)
    exact ⟨List.mem_of_getElem? hg, hhost⟩
  · rintro ⟨hmem, hhost⟩
    obtain ⟨i, hi⟩ := List.mem_iff_getElem?.1 hmem
    exact ⟨i, h.lookup_index_eq_some_iff.2 ⟨g, hi, hhost⟩, hi⟩

theorem host_of_gateway? (h : d.WellFormed) (hfound : d.gateway? host = some g) : g.host = host :=
  (h.gateway?_eq_some_iff.1 hfound).2

/-- Something is found under the hosts of the gateways. -/
theorem exists_gateway? (h : d.WellFormed) (hmem : host ∈ d.gateways.map (·.host)) :
    ∃ g, d.gateway? host = some g := by
  obtain ⟨g, hg, hhost⟩ := List.mem_map.1 hmem
  exact ⟨g, h.gateway?_eq_some_iff.2 ⟨hg, hhost⟩⟩

theorem exists_gateways (h : d.WellFormed) {hosts : List String}
    (hmem : ∀ host ∈ hosts, host ∈ d.gateways.map (·.host)) :
    ∃ gs : List Gateway, hosts.map d.gateway? = gs.map some := by
  induction hosts with
  | nil => exact ⟨[], rfl⟩
  | cons host hosts ih =>
    obtain ⟨gs, hgs⟩ := ih fun k hk => hmem k (List.mem_cons_of_mem host hk)
    obtain ⟨g, hg⟩ := h.exists_gateway? (hmem host List.mem_cons_self)
    exact ⟨g :: gs, by rw [List.map_cons, List.map_cons, hg, hgs]⟩

end WellFormed

/-! ### Entries one after another -/

/-- The gateway of an entry, if it gives one. -/
def gatewayOf? (provider : Provider) (preferences : Preferences) (entry : Json) : Option Gateway :=
  (Gateway.build provider.service provider.secrets entry preferences).toOption

theorem gatewayOf?_eq_some_iff : gatewayOf? provider preferences entry = some g ↔
    Gateway.build provider.service provider.secrets entry preferences = .ok g :=
  toOption_eq_some_iff

theorem gatewayOf?_eq_none_iff : gatewayOf? provider preferences entry = none ↔
    ∃ e, Gateway.build provider.service provider.secrets entry preferences = .error e := by
  rw [gatewayOf?]
  cases Gateway.build provider.service provider.secrets entry preferences <;>
    simp [Except.toOption]

/-- The gateways that can be built, each host at its first place only. -/
def buildAll (provider : Provider) (preferences : Preferences) : List Gateway :=
  keepFirst (·.host) (provider.service.gateways.filterMap (gatewayOf? provider preferences))

theorem load_of_mem_buildAll (h : g ∈ buildAll provider preferences) : g.load = none := by
  have hmem := keepFirst.sublist.subset h
  obtain ⟨entry, -, hbuild⟩ := List.mem_filterMap.1 hmem
  exact Gateway.load_of_build (gatewayOf?_eq_some_iff.1 hbuild)

theorem nodup_hosts_buildAll (provider : Provider) (preferences : Preferences) :
    ((buildAll provider preferences).map (·.host)).Nodup :=
  List.pairwise_map.2 keepFirst.pairwise_ne

/-- The directory that lists gateways before a server is asked. -/
def listing (preferences : Preferences) (clientTimezone : Int) (gs : List Gateway) : Directory where
  gateways := gs
  index := (gs.map (·.host)).zipIdx
  preferences := preferences
  clientTimezone := clientTimezone

/-- One entry adds its gateway, unless its host is there already. -/
theorem takeIn_listing (provider : Provider) (preferences : Preferences) (clientTimezone : Int)
    (gs : List Gateway) (entry : Json) :
    takeIn provider (listing preferences clientTimezone gs) entry =
      listing preferences clientTimezone (gs ++
        ((gatewayOf? provider preferences entry).filter fun g =>
          g.host ∉ gs.map (·.host)).toList) := by
  unfold takeIn gatewayOf?
  have hpreferences : (listing preferences clientTimezone gs).preferences = preferences := rfl
  rw [hpreferences]
  cases Gateway.build provider.service provider.secrets entry preferences with
  | error e => exact congrArg (listing preferences clientTimezone) (List.append_nil gs).symm
  | ok g =>
    have hlookup : ((listing preferences clientTimezone gs).index.lookup g.host).isSome ↔
        g.host ∈ gs.map (·.host) := by
      rw [listing, lookup_zipIdx]
      split <;> simp [*]
    have hadds : (Except.ok g : Except GatewayError Gateway).toOption = some g := rfl
    rw [hadds, Option.filter_some]
    by_cases hmem : g.host ∈ gs.map (·.host)
    · dsimp only
      rw [if_pos (hlookup.2 hmem), if_neg (by simpa using hmem)]
      exact congrArg (listing preferences clientTimezone) (List.append_nil gs).symm
    · dsimp only
      rw [if_neg (mt hlookup.1 hmem), if_pos (by simpa using hmem)]
      unfold listing
      rw [Option.toList_some, List.map_append, List.map_singleton, List.zipIdx_append,
        List.length_map, Nat.zero_add]
      rfl

/-- All of the entries add the gateways that they give, the first one for every host. -/
theorem foldl_takeIn (provider : Provider) (preferences : Preferences) (clientTimezone : Int)
    (entries : List Json) :
    entries.foldl (takeIn provider) (listing preferences clientTimezone []) =
      listing preferences clientTimezone
        (keepFirst (·.host) (entries.filterMap (gatewayOf? provider preferences))) := by
  -- the induction is on the loop, one more entry having come in at the end
  induction entries using List.reverseRecOn with
  | nil => rfl
  | append_singleton entries entry ih =>
    rw [List.foldl_concat, ih, takeIn_listing, keepFirst.append_filterMap]
    simp only [keepFirst.mem_keys]

/-! ### Named hosts one after another -/

/-- The hosts of a list that are known, each at its first place only. -/
def firstNamed (known : List String) (hosts : List NamedHost) : List NamedHost :=
  keepFirst (·.host) (hosts.filter fun h => known.contains h.host)

/-- The gateway with the load that is named for its host. -/
def attachLoad (named : List NamedHost) (g : Gateway) : Gateway :=
  match (named.find? (·.host == g.host)).bind (·.load) with
  | some load => g.withLoad load
  | none => g

@[simp] theorem host_attachLoad (named : List NamedHost) (g : Gateway) :
    (attachLoad named g).host = g.host := by
  rw [attachLoad]
  split <;> rfl

theorem hosts_map_attachLoad (named : List NamedHost) (gs : List Gateway) :
    (gs.map (attachLoad named)).map (·.host) = gs.map (·.host) := by
  rw [List.map_map]
  exact List.map_congr_left fun g _ => host_attachLoad named g

variable {named : List NamedHost} {e : NamedHost} {known : List String}

theorem find?_eq_none_of_not_mem (h : host ∉ named.map (·.host)) :
    named.find? (·.host == host) = none := by
  rw [List.find?_eq_none]
  intro e he heq
  exact h (eq_of_beq heq ▸ List.mem_map_of_mem he)

/-- A host that is named for the first time has its load. -/
theorem attachLoad_concat_of_eq (hnew : e.host ∉ named.map (·.host)) (hhost : g.host = e.host) :
    attachLoad (named ++ [e]) g = e.load.elim g g.withLoad := by
  have hfirst : (named ++ [e]).find? (·.host == g.host) = some e := by
    rw [hhost, List.find?_append, find?_eq_none_of_not_mem hnew]
    simp
  rw [attachLoad, hfirst, Option.bind_some]
  cases e.load <;> rfl

/-- The loads of other hosts stay as they are. -/
theorem attachLoad_concat_of_ne (hhost : g.host ≠ e.host) :
    attachLoad (named ++ [e]) g = attachLoad named g := by
  have hsingle : [e].find? (·.host == g.host) = none := by simpa using hhost.symm
  rw [attachLoad, attachLoad, List.find?_append, hsingle, Option.or_none]

theorem attachLoad_of_not_mem (h : g.host ∉ named.map (·.host)) : attachLoad named g = g := by
  rw [attachLoad, find?_eq_none_of_not_mem h]
  rfl

/-- One more host counts if it is known and was not named before. -/
theorem firstNamed_concat (known : List String) (named : List NamedHost) (e : NamedHost) :
    firstNamed known (named ++ [e]) = firstNamed known named ++
      if e.host ∈ known ∧ e.host ∉ (firstNamed known named).map (·.host) then [e] else [] := by
  unfold firstNamed
  rw [List.filter_append]
  by_cases hknown : e.host ∈ known
  · have hsingle : [e].filter (fun h => known.contains h.host) = [e] := by simp [hknown]
    rw [hsingle, keepFirst.concat]
    congr 1
    by_cases hmem : e.host ∈ (named.filter fun h => known.contains h.host).map (·.host)
    · rw [if_pos hmem, if_neg fun h => h.2 (keepFirst.mem_keys.2 hmem)]
    · rw [if_neg hmem, if_pos ⟨hknown, mt keepFirst.mem_keys.1 hmem⟩]
  · have hsingle : [e].filter (fun h => known.contains h.host) = [] := by simp [hknown]
    rw [hsingle, if_neg fun h => hknown h.1, List.append_nil, List.append_nil]

theorem mem_known_of_mem_firstNamed (h : e ∈ firstNamed known named) : e.host ∈ known := by
  have hmem := keepFirst.sublist.subset h
  simpa using (List.mem_filter.1 hmem).2

/-- The directory of gateways when hosts have been taken up in order. -/
def arranged (preferences : Preferences) (clientTimezone : Int) (gs : List Gateway)
    (named : List NamedHost) : Directory :=
  { listing preferences clientTimezone gs with
    gateways := gs.map (attachLoad named)
    presorted := named.map fun e => (gs.map (·.host)).idxOf e.host }

/-- The gateway of a host that is named for the first time gets the load that it is named with. -/
theorem modify_attachLoad (hnodup : (gs.map (·.host)).Nodup) (hknown : e.host ∈ gs.map (·.host))
    (hnew : e.host ∉ named.map (·.host)) :
    (match e.load with
      | some load =>
        (gs.map (attachLoad named)).modify ((gs.map (·.host)).idxOf e.host) (·.withLoad load)
      | none => gs.map (attachLoad named)) = gs.map (attachLoad (named ++ [e])) := by
  cases hload : e.load with
  | none =>
    refine List.map_congr_left fun g _ => ?_
    by_cases hhost : g.host = e.host
    · rw [attachLoad_concat_of_eq hnew hhost, attachLoad_of_not_mem (hhost ▸ hnew), hload,
        Option.elim_none]
    · rw [attachLoad_concat_of_ne hhost]
  | some load =>
    refine List.ext_getElem? fun j => ?_
    rw [List.getElem?_modify, List.getElem?_map, List.getElem?_map]
    cases hg : gs[j]? with
    | none => rfl
    | some g =>
      change some (if (gs.map (·.host)).idxOf e.host = j then (attachLoad named g).withLoad load
        else attachLoad named g) = some (attachLoad (named ++ [e]) g)
      -- the gateway at the number of the host is the only one with the host
      have hnumber := idxOf_host_eq_iff hnodup hknown hg
      by_cases hhost : g.host = e.host
      · rw [if_pos (hnumber.2 hhost), attachLoad_concat_of_eq hnew hhost,
          attachLoad_of_not_mem (hhost ▸ hnew), hload, Option.elim_some]
      · rw [if_neg (mt hnumber.1 hhost), attachLoad_concat_of_ne hhost]

/-- One named host is taken up, unless it is not known or was named before. -/
theorem moveUp_arranged (hnodup : (gs.map (·.host)).Nodup)
    (hknown : ∀ e ∈ named, e.host ∈ gs.map (·.host)) (e : NamedHost) :
    moveUp (arranged preferences clientTimezone gs named) e =
      arranged preferences clientTimezone gs (named ++
        if e.host ∈ gs.map (·.host) ∧ e.host ∉ named.map (·.host) then [e] else []) := by
  have hindex : (arranged preferences clientTimezone gs named).index =
      (gs.map (·.host)).zipIdx := rfl
  unfold moveUp
  rw [hindex, lookup_zipIdx, Nat.zero_add]
  by_cases hmem : e.host ∈ gs.map (·.host)
  · -- numbers of known hosts are the same only if the hosts are
    have hpresorted : (arranged preferences clientTimezone gs named).presorted.contains
        ((gs.map (·.host)).idxOf e.host) ↔ e.host ∈ named.map (·.host) := by
      rw [List.contains_iff_mem, arranged, List.mem_map, List.mem_map]
      exact exists_congr fun e' => and_congr_right fun he' => List.idxOf_inj (hknown e' he')
    rw [if_pos hmem]
    dsimp only
    by_cases hnamed : e.host ∈ named.map (·.host)
    · rw [if_pos (hpresorted.2 hnamed), if_neg fun h => h.2 hnamed, List.append_nil]
    · rw [if_neg (mt hpresorted.1 hnamed), if_pos ⟨hmem, hnamed⟩]
      unfold arranged
      rw [← modify_attachLoad hnodup hmem hnamed, List.map_append, List.map_singleton]
      rfl
  · rw [if_neg hmem, if_neg fun h => hmem h.1, List.append_nil]

/-- All of the named hosts are taken up that are known, each at its first place. -/
theorem foldl_moveUp (hnodup : (gs.map (·.host)).Nodup) (named : List NamedHost) :
    named.foldl moveUp (listing preferences clientTimezone gs) =
      arranged preferences clientTimezone gs (firstNamed (gs.map (·.host)) named) := by
  induction named using List.reverseRecOn with
  | nil =>
    have hnone : gs.map (attachLoad []) = gs := List.map_id gs
    change listing preferences clientTimezone gs =
      { listing preferences clientTimezone gs with gateways := gs.map (attachLoad []) }
    rw [hnone]
    rfl
  | append_singleton named e ih =>
    rw [List.foldl_concat, ih, moveUp_arranged hnodup fun e he => mem_known_of_mem_firstNamed he,
      firstNamed_concat]

/-! ### Directories by what is named -/

/-- The directory of gateways when some of them are named first. -/
def assemble (gateways : List Gateway) (named : List NamedHost) (strategy : Strategy)
    (preferences : Preferences) (clientTimezone : Int) : Directory :=
  { arranged preferences clientTimezone gateways named with
    strategy := if named.isEmpty then .clientTimezone else strategy }

/-- The hosts of a provider's order that have gateways, each at its first place. -/
def serverOrder (provider : Provider) (preferences : Preferences) : List NamedHost :=
  match provider.order with
  | some order => firstNamed ((buildAll provider preferences).map (·.host)) order.hosts
  | none => []

/-- What the loops over the entries and over the named hosts come to. -/
theorem build_eq (provider : Provider) (preferences : Preferences) (clientTimezone : Int) :
    build provider preferences clientTimezone =
      assemble (buildAll provider preferences) (serverOrder provider preferences)
        (provider.order.elim .clientTimezone ServerOrder.strategy) preferences clientTimezone := by
  have htaken : provider.service.gateways.foldl (takeIn provider) { preferences, clientTimezone } =
      listing preferences clientTimezone (buildAll provider preferences) :=
    foldl_takeIn provider preferences clientTimezone provider.service.gateways
  have hnamed : firstNamed ((buildAll provider preferences).map (·.host))
      (provider.order.elim [] ServerOrder.hosts) = serverOrder provider preferences := by
    rw [serverOrder]
    cases provider.order <;> rfl
  rw [build, follow, htaken, foldl_moveUp (nodup_hosts_buildAll provider preferences), hnamed]
  unfold assemble arranged
  rw [List.isEmpty_map]

@[simp] theorem preferences_build (provider : Provider) (preferences : Preferences)
    (clientTimezone : Int) :
    (build provider preferences clientTimezone).preferences = preferences := by
  rw [build_eq]
  rfl

@[simp] theorem transport_build (provider : Provider) (preferences : Preferences)
    (clientTimezone : Int) :
    (build provider preferences clientTimezone).transport = preferences.transport := by
  rw [transport, preferences_build]

@[simp] theorem clientTimezone_build (provider : Provider) (preferences : Preferences)
    (clientTimezone : Int) :
    (build provider preferences clientTimezone).clientTimezone = clientTimezone := by
  rw [build_eq]
  rfl

theorem hosts_build (provider : Provider) (preferences : Preferences) (clientTimezone : Int) :
    (build provider preferences clientTimezone).gateways.map (·.host) =
      (buildAll provider preferences).map (·.host) := by
  rw [build_eq]
  exact hosts_map_attachLoad _ _

/-- The hosts in the order of the server. -/
def serverHosts (d : Directory) : List String :=
  d.presorted.filterMap fun i => d.gateways[i]?.map (·.host)

namespace WellFormed

/-- The walk along the numbers of the server meets its hosts. -/
theorem hosts_ranked (h : d.WellFormed) :
    (ranked d.gateways d.presorted 0).map (·.host) = d.serverHosts := by
  refine (filterMap_of_map_eq ?_).symm
  have hplaces := congrArg (List.map (Option.map (·.host))) (map_some_ranked h.lt_of_mem_presorted)
  rw [List.map_map, List.map_map] at hplaces
  rw [List.map_map]
  exact hplaces.symm

theorem nodup_serverHosts (h : d.WellFormed) : d.serverHosts.Nodup := by
  refine h.nodup_presorted.filterMap fun i j host hi hj => ?_
  rw [Option.mem_def, ← List.getElem?_map] at hi hj
  exact (List.getElem?_inj (List.getElem?_eq_some_iff.1 hi).1 h.nodup_hosts).1 (hi.trans hj.symm)

/-- Gateways of the directory are found under their hosts. -/
theorem map_gateway?_hosts (h : d.WellFormed) (hmem : ∀ g ∈ gs, g ∈ d.gateways) :
    (gs.map (·.host)).map d.gateway? = gs.map some := by
  rw [List.map_map]
  exact List.map_congr_left fun g hg => h.gateway?_eq_some_iff.2 ⟨hmem g hg, rfl⟩

/-- In the order of a server the gateways of its hosts are offered. -/
theorem map_some_ordered (h : d.WellFormed) (hpresorted : d.strategy.isPresorted) :
    d.ordered.map some = d.serverHosts.map d.gateway? := by
  rw [ordered, if_pos hpresorted, ← h.hosts_ranked,
    h.map_gateway?_hosts fun g hg => mem_of_mem_ranked hg]

end WellFormed

/-- If all of the named hosts have gateways, they are the order of the server. -/
theorem serverHosts_assemble {strategy : Strategy}
    (hknown : ∀ e ∈ named, e.host ∈ gs.map (·.host)) :
    (assemble gs named strategy preferences clientTimezone).serverHosts = named.map (·.host) := by
  change (named.map fun e => (gs.map (·.host)).idxOf e.host).filterMap
    (fun i => (gs.map (attachLoad named))[i]?.map (·.host)) = named.map (·.host)
  have hplace (i : Nat) : (gs.map (attachLoad named))[i]?.map (·.host) =
      (gs.map (·.host))[i]? := by
    rw [← List.getElem?_map, hosts_map_attachLoad]
  simp only [hplace]
  refine filterMap_of_map_eq ?_
  rw [List.map_map, List.map_map]
  refine List.map_congr_left fun e he => ?_
  have hlt := List.idxOf_lt_length_iff.2 (hknown e he)
  rw [Function.comp_apply, Function.comp_apply, List.getElem?_eq_getElem hlt, List.getElem_idxOf]

theorem serverHosts_build (provider : Provider) (preferences : Preferences) (clientTimezone : Int) :
    (build provider preferences clientTimezone).serverHosts =
      (serverOrder provider preferences).map (·.host) := by
  rw [build_eq]
  refine serverHosts_assemble fun e he => ?_
  rw [serverOrder] at he
  cases horder : provider.order with
  | none =>
    rw [horder] at he
    cases he
  | some order =>
    rw [horder] at he
    exact mem_known_of_mem_firstNamed he

/-- The directory for a client in another time zone. -/
def forClient (d : Directory) (client : Int) : Directory := { d with clientTimezone := client }

/-- The time zone of the client plays no part in how a directory comes about. -/
theorem forClient_build (provider : Provider) (preferences : Preferences)
    (clientTimezone client : Int) : (build provider preferences clientTimezone).forClient client =
      build provider preferences client := by
  rw [build_eq, build_eq]
  rfl

end Directory

end VpnDirectory
