import Mathlib.Data.List.Nodup

/-!
# Firewall rules at the providers

The managers for DigitalOcean, Azure and Vultr build their rules from one list of `SecurityRule`s,
and each reshapes them in its own way. A provider admits a packet when some rule matches it.
-/

namespace Gadget.RemoteProviders.Firewall

inductive Direction
  | ingress
  | egress

inductive Protocol
  | tcp
  | udp
  | icmp

/-- A rule as the blueprint asks for it; no CIDR means any address. -/
structure SecurityRule where
  direction : Direction
  protocol : Protocol
  ports : List UInt16
  sourceCidrs : List (List Char)
  destinationCidrs : List (List Char)
  priority : UInt16

/-- The ports of a provider's rule: a comma list, or `low:high`. -/
inductive Ports
  | list (ports : List UInt16)
  | range (low high : ℕ)

/-- A rule as a provider gets it; what it has not been sent is `none`. -/
structure ProviderRule where
  direction : Option Direction
  protocol : Protocol
  ports : Ports
  sources : Option (List (List Char))
  destinations : Option (List (List Char))

namespace SecurityRule

variable (rule : SecurityRule)

/-- The rule that `ensure_security_group` sends to DigitalOcean. -/
def digitalOcean : ProviderRule :=
  match rule.direction with
  | .ingress => ⟨some .ingress, rule.protocol, .list rule.ports, some rule.sourceCidrs, none⟩
  | .egress => ⟨some .egress, rule.protocol, .list rule.ports, none, some rule.destinationCidrs⟩

/-- `build_azure_rule_payload`, its priority apart. -/
def azure : ProviderRule where
  direction := some rule.direction
  protocol := rule.protocol
  ports := .list rule.ports
  sources := if rule.sourceCidrs = [] then none else some rule.sourceCidrs
  destinations := none

/-- `rule.priority + index as u16`, `none` where the sum overflows. -/
def azurePriority (index : ℕ) : Option UInt16 :=
  let sum := rule.priority.toNat + index % 65536
  if sum < 65536 then some (UInt16.ofNat sum) else none

/-- The rule that `ensure_security_group` sends to Vultr: no direction, no address, one range of ports. -/
def vultr : ProviderRule where
  direction := none
  protocol := rule.protocol
  ports :=
    match rule.ports with
    | [port] => .list [port]
    | ports => .range ((ports.map UInt16.toNat).min?.getD 0) ((ports.map UInt16.toNat).max?.getD 0)
  sources := none
  destinations := none

end SecurityRule

/-- The priorities of the rules from a place in the list on. -/
def azurePriorities : ℕ → List SecurityRule → Option (List UInt16)
  | _, [] => some []
  | index, rule :: rules => do
    let priority ← rule.azurePriority index
    let rest ← azurePriorities (index + 1) rules
    some (priority :: rest)

/-- A packet, with its port and its two addresses. -/
structure Packet (Address : Type) where
  direction : Direction
  protocol : Protocol
  port : UInt16
  source : Address
  destination : Address

def Ports.Has : Ports → UInt16 → Prop
  | .list ports, port => port ∈ ports
  | .range low high, port => low ≤ port.toNat ∧ port.toNat ≤ high

variable {Address : Type} (covers : List Char → Address → Prop)

/-- The address is in one of the blocks, or there are none. -/
def Within (cidrs : List (List Char)) (a : Address) : Prop := cidrs = [] ∨ ∃ cidr ∈ cidrs, covers cidr a

def SecurityRule.Admits (rule : SecurityRule) (p : Packet Address) : Prop :=
  p.direction = rule.direction ∧ p.protocol = rule.protocol ∧ p.port ∈ rule.ports ∧
    Within covers rule.sourceCidrs p.source ∧ Within covers rule.destinationCidrs p.destination

def ProviderRule.Admits (rule : ProviderRule) (p : Packet Address) : Prop :=
  (∀ d ∈ rule.direction, p.direction = d) ∧ p.protocol = rule.protocol ∧ rule.ports.Has p.port ∧
    (∀ cidrs ∈ rule.sources, Within covers cidrs p.source) ∧
    ∀ cidrs ∈ rule.destinations, Within covers cidrs p.destination

/-- The translated rules admit no packet that the list does not. -/
def Sound (translate : SecurityRule → ProviderRule) (rules : List SecurityRule) : Prop :=
  ∀ p, (∃ rule ∈ rules, (translate rule).Admits covers p) → ∃ rule ∈ rules, rule.Admits covers p

/-- The Azure priorities can be computed, and no two are the same. -/
def DistinctPriorities (rules : List SecurityRule) : Prop :=
  ∃ ps, azurePriorities 0 rules = some ps ∧ ps.Nodup

/-- Some rule of the list admits the packet. -/
def Admitted (rules : List SecurityRule) (p : Packet Address) : Prop := ∃ rule ∈ rules, rule.Admits covers p

/-- What the list says about an inbound packet does not depend on its destination, nor what it says about an
outbound one on its source. -/
def PlainAtDigitalOcean (rules : List SecurityRule) : Prop :=
  ∀ p, Admitted covers rules p → ∀ a,
    (p.direction = .ingress → Admitted covers rules { p with destination := a }) ∧
      (p.direction = .egress → Admitted covers rules { p with source := a })

/-- What the list says about a packet does not depend on its destination. -/
def PlainAtAzure (rules : List SecurityRule) : Prop :=
  ∀ p, Admitted covers rules p → ∀ a, Admitted covers rules { p with destination := a }

/-- Between two of the ports; without ports it is the range from 0 to 0. -/
def Spans (ports : List UInt16) (port : UInt16) : Prop :=
  (∃ low ∈ ports, ∃ high ∈ ports, low.toNat ≤ port.toNat ∧ port.toNat ≤ high.toNat) ∨ ports = [] ∧ port = 0

/-- The list admits every packet with the protocol of a rule and a port between those of the rule, in both
directions and for all addresses. -/
def PlainAtVultr (rules : List SecurityRule) : Prop :=
  ∀ rule ∈ rules, ∀ p : Packet Address, p.protocol = rule.protocol → Spans rule.ports p.port →
    Admitted covers rules p

/-- The priority of a rule plus its place, as Azure gets it. -/
def azureSum (entry : SecurityRule × ℕ) : ℕ := entry.1.priority.toNat + entry.2 % 65536

variable {covers} {rules : List SecurityRule}

lemma SecurityRule.vultr_ports_iff {rule : SecurityRule} {port : UInt16} :
    rule.vultr.ports.Has port ↔ Spans rule.ports port := by
  unfold SecurityRule.vultr Spans
  rcases hports : rule.ports with _ | ⟨first, _ | ⟨second, rest⟩⟩
  · simp [Ports.Has, ← UInt16.toNat_inj]
  · simp only [Ports.Has, List.mem_singleton, reduceCtorEq, false_and, or_false]
    constructor
    · rintro rfl
      exact ⟨port, rfl, port, rfl, Nat.le_refl _, Nat.le_refl _⟩
    · rintro ⟨_, rfl, _, rfl, h1, h2⟩
      exact UInt16.toNat_inj.mp (Nat.le_antisymm h2 h1)
  dsimp only
  rw [← hports]
  have hne : rule.ports.map UInt16.toNat ≠ [] := by simp [hports]
  obtain ⟨l, hl⟩ := Option.isSome_iff_exists.mp (List.isSome_min?_of_ne_nil hne)
  obtain ⟨g, hg⟩ := Option.isSome_iff_exists.mp (List.isSome_max?_of_ne_nil hne)
  obtain ⟨low, hlow, rfl⟩ := List.mem_map.mp (List.min?_mem hl)
  obtain ⟨high, hhigh, rfl⟩ := List.mem_map.mp (List.max?_mem hg)
  rw [hl, hg, or_iff_left (by simp [hports])]
  constructor
  · rintro ⟨h1, h2⟩
    exact ⟨low, hlow, high, hhigh, h1, h2⟩
  · rintro ⟨low', hlow', high', hhigh', h1, h2⟩
    have hmin := (List.min?_eq_some_iff.mp hl).2 _ (List.mem_map_of_mem hlow')
    have hmax := (List.max?_eq_some_iff.mp hg).2 _ (List.mem_map_of_mem hhigh')
    exact ⟨Nat.le_trans hmin h1, Nat.le_trans h2 hmax⟩

section

variable (hcovers : ∀ cidr, ∃ a, covers cidr a)

include hcovers

/-- Some address is within any list of blocks. -/
lemma exists_within [Nonempty Address] (cidrs : List (List Char)) : ∃ a, Within covers cidrs a := by
  rcases cidrs with _ | ⟨cidr, cidrs⟩
  · exact ⟨Classical.arbitrary Address, .inl rfl⟩
  · obtain ⟨a, ha⟩ := hcovers cidr
    exact ⟨a, .inr ⟨cidr, List.mem_cons_self, ha⟩⟩

lemma sound_digitalOcean_iff : Sound covers SecurityRule.digitalOcean rules ↔ PlainAtDigitalOcean covers rules := by
  constructor
  · rintro h p ⟨rule, hrule, hdir, hprot, hport, hsrc, hdst⟩ a
    refine ⟨fun hin => h _ ⟨rule, hrule, ?_⟩, fun hout => h _ ⟨rule, hrule, ?_⟩⟩
    · rw [SecurityRule.digitalOcean, ← hdir, hin]
      exact ⟨by simp, hprot, hport, by simpa using hsrc, by simp⟩
    · rw [SecurityRule.digitalOcean, ← hdir, hout]
      exact ⟨by simp, hprot, hport, by simp, by simpa using hdst⟩
  · rintro h p ⟨rule, hrule, hp⟩
    have : Nonempty Address := ⟨p.source⟩
    unfold SecurityRule.digitalOcean at hp
    -- the packet with an address that the rule asks for is admitted, hence so is the packet itself
    split at hp <;> rename_i hdir <;> obtain ⟨h1, h2, h3, h4, h5⟩ := hp
    · obtain ⟨a, ha⟩ := exists_within hcovers rule.destinationCidrs
      exact (h { p with destination := a } ⟨rule, hrule, (h1 _ rfl).trans hdir.symm, h2, h3, h4 _ rfl, ha⟩
        p.destination).1 (h1 _ rfl)
    · obtain ⟨a, ha⟩ := exists_within hcovers rule.sourceCidrs
      exact (h { p with source := a } ⟨rule, hrule, (h1 _ rfl).trans hdir.symm, h2, h3, ha, h5 _ rfl⟩
        p.source).2 (h1 _ rfl)

lemma sound_azure_iff : Sound covers SecurityRule.azure rules ↔ PlainAtAzure covers rules := by
  constructor
  · rintro h p ⟨rule, hrule, hdir, hprot, hport, hsrc, hdst⟩ a
    refine h _ ⟨rule, hrule, by simp [SecurityRule.azure, hdir], hprot, hport, ?_, by simp [SecurityRule.azure]⟩
    intro cidrs hc
    simp only [SecurityRule.azure, Option.mem_def] at hc
    split_ifs at hc
    cases hc
    exact hsrc
  · rintro h p ⟨rule, hrule, h1, h2, h3, h4, -⟩
    have : Nonempty Address := ⟨p.source⟩
    obtain ⟨a, ha⟩ := exists_within hcovers rule.destinationCidrs
    refine h { p with destination := a } ⟨rule, hrule, h1 _ rfl, h2, h3, ?_, ha⟩ p.destination
    by_cases hnil : rule.sourceCidrs = []
    · exact .inl hnil
    · exact h4 _ (if_neg hnil)

end

lemma sound_vultr_iff : Sound covers SecurityRule.vultr rules ↔ PlainAtVultr covers rules := by
  constructor
  · intro h rule hrule p hprot hport
    exact h p ⟨rule, hrule, by simp [SecurityRule.vultr], hprot, rule.vultr_ports_iff.mpr hport,
      by simp [SecurityRule.vultr], by simp [SecurityRule.vultr]⟩
  · rintro h p ⟨rule, hrule, -, h2, h3, -, -⟩
    exact h rule hrule p h2 (rule.vultr_ports_iff.mp h3)

lemma azurePriorities_eq_some_iff {index : ℕ} {ps : List UInt16} : azurePriorities index rules = some ps ↔
    (∀ entry ∈ rules.zipIdx index, azureSum entry < 65536) ∧
      ps = (rules.zipIdx index).map fun entry => UInt16.ofNat (azureSum entry) := by
  induction rules generalizing index ps with
  | nil => simp [azurePriorities, eq_comm]
  | cons rule rules ih =>
    rw [azurePriorities, List.zipIdx_cons, List.forall_mem_cons, List.map_cons]
    by_cases hfit : azureSum (rule, index) < 65536
    · have hp : rule.azurePriority index = some (UInt16.ofNat (azureSum (rule, index))) := if_pos hfit
      rw [hp, and_iff_right hfit]
      simp only [Option.bind_eq_bind, Option.bind_some, Option.bind_eq_some_iff, ih, Option.some.injEq]
      constructor
      · rintro ⟨_, ⟨hall, rfl⟩, rfl⟩
        exact ⟨hall, rfl⟩
      · rintro ⟨hall, rfl⟩
        exact ⟨_, ⟨hall, rfl⟩, rfl⟩
    · have hp : rule.azurePriority index = none := if_neg hfit
      simp [hp, hfit]

lemma distinctPriorities_iff : DistinctPriorities rules ↔
    (∀ entry ∈ rules.zipIdx, azureSum entry < 65536) ∧ rules.zipIdx.Pairwise (azureSum · ≠ azureSum ·) := by
  unfold DistinctPriorities
  simp only [azurePriorities_eq_some_iff, and_assoc, exists_and_left, exists_eq_left]
  refine and_congr_right fun hfit => ?_
  rw [List.Nodup, List.pairwise_map]
  refine List.Pairwise.iff_of_mem fun {x y} hx hy => not_congr ?_
  rw [← UInt16.toNat_inj, UInt16.toNat_ofNat_of_lt' (hfit x hx), UInt16.toNat_ofNat_of_lt' (hfit y hy)]

/-- **The translations are sound** exactly for the lists that say nothing about what they drop: the
destinations of inbound and the sources of outbound packets at DigitalOcean, all destinations at Azure, and
addresses, directions and gaps between ports at Vultr. The priorities at Azure are those of the rules plus
their places. -/
theorem firewall_sound_iff (covers : List Char → Address → Prop) (hcovers : ∀ cidr, ∃ a, covers cidr a)
    (rules : List SecurityRule) :
    (Sound covers SecurityRule.digitalOcean rules ↔ PlainAtDigitalOcean covers rules) ∧
    (Sound covers SecurityRule.azure rules ↔ PlainAtAzure covers rules) ∧
    (Sound covers SecurityRule.vultr rules ↔ PlainAtVultr covers rules) ∧
    (DistinctPriorities rules ↔ (∀ entry ∈ rules.zipIdx, azureSum entry < 65536) ∧
      rules.zipIdx.Pairwise (azureSum · ≠ azureSum ·)) :=
  ⟨sound_digitalOcean_iff hcovers, sound_azure_iff hcovers, sound_vultr_iff, distinctPriorities_iff⟩

abbrev sshRules : List SecurityRule := [⟨.ingress, .tcp, [22], [], [], 1005⟩, ⟨.egress, .tcp, [22], [], [], 1000⟩]

/-- Descending priorities are fine as long as they do not descend by the distance of the places. -/
theorem sshRules_sound :
    Sound (fun _ (_ : Bool) => True) SecurityRule.azure sshRules ∧ DistinctPriorities sshRules := by
  obtain ⟨-, haz, -, hpr⟩ := firewall_sound_iff (fun _ (_ : Bool) => True) (fun _ => ⟨true, trivial⟩) sshRules
  refine ⟨haz.mpr ?_, hpr.mpr (by decide)⟩
  have hnil : ∀ rule ∈ sshRules, rule.destinationCidrs = [] := by decide
  rintro p ⟨rule, hrule, hdir, hprot, hport, hsrc, -⟩ a
  exact ⟨rule, hrule, hdir, hprot, hport, hsrc, .inl (hnil rule hrule)⟩

/-- With blocks that cover one of two addresses: a rule for one destination lets packets to both through at
DigitalOcean and Azure, one for a source and two ports admits the other source at Vultr, and
two rules of descending priority get the same one. -/
theorem rules_admit_more :
    ¬ Sound (fun _ (a : Bool) => a) SecurityRule.digitalOcean [⟨.ingress, .tcp, [22], [], [['*']], 0⟩] ∧
    ¬ Sound (fun _ (a : Bool) => a) SecurityRule.azure [⟨.ingress, .tcp, [22], [], [['*']], 0⟩] ∧
    ¬ Sound (fun _ (a : Bool) => a) SecurityRule.vultr [⟨.ingress, .tcp, [80, 443], [['*']], [], 0⟩] ∧
    ¬ DistinctPriorities [⟨.ingress, .tcp, [], [], [], 1001⟩, ⟨.ingress, .tcp, [], [], [], 1000⟩] ∧
    ¬ DistinctPriorities [⟨.ingress, .tcp, [], [], [], 0⟩, ⟨.ingress, .tcp, [], [], [], 65535⟩] := by
  refine ⟨fun h => ?_, fun h => ?_, fun h => ?_, ?_, ?_⟩
  · have hp := h ⟨.ingress, .tcp, 22, false, false⟩
    simp [SecurityRule.digitalOcean, ProviderRule.Admits, SecurityRule.Admits, Ports.Has, Within] at hp
  · have hp := h ⟨.ingress, .tcp, 22, false, false⟩
    simp [SecurityRule.azure, ProviderRule.Admits, SecurityRule.Admits, Ports.Has, Within] at hp
  · have hp := h ⟨.egress, .tcp, 100, false, false⟩
    simp [SecurityRule.vultr, ProviderRule.Admits, SecurityRule.Admits, Ports.Has, Within] at hp
  · rintro ⟨ps, hps, hnd⟩
    cases hps
    exact absurd hnd (by decide)
  · rintro ⟨ps, hps, -⟩
    cases hps

end Gadget.RemoteProviders.Firewall
