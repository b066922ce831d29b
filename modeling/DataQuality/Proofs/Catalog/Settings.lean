import DataQuality.Catalog.Config
import DataQuality.Proofs.Settles

/-!
# Settings that can work

The settings of the catalog client are accepted exactly if each of them can work: an address with
one of the two schemes, a token where the client proves itself by one, and a timeout and a page
size beyond zero. Otherwise the first one that cannot work is named, in this order.
-/

namespace DataQuality.CatalogConfig

variable {config : CatalogConfig}

/-- The address starts with one of the two schemes. -/
def Addresses (config : CatalogConfig) : Prop :=
  ∃ rest, config.hostPort = "http://" ++ rest ∨ config.hostPort = "https://" ++ rest

/-- There is a token, and it is not empty, if the client proves itself by one. -/
def Authenticates (config : CatalogConfig) : Prop :=
  config.authProvider = .token → ∃ token, config.jwtToken = some token ∧ token ≠ ""

/-- Settings that can work. -/
structure WellFormed (config : CatalogConfig) : Prop where
  hostPort : config.hostPort ≠ ""
  addresses : config.Addresses
  authenticates : config.Authenticates
  timeout : 0 < config.timeoutSecs
  pageSize : 0 < config.pageSize

/-- The first setting that cannot work. -/
inductive FirstViolation (config : CatalogConfig) : CatalogConfigError → Prop where
  | emptyHostPort : config.hostPort = "" → FirstViolation config .emptyHostPort
  | noScheme : config.hostPort ≠ "" → ¬config.Addresses → FirstViolation config .noScheme
  | noToken : config.hostPort ≠ "" → config.Addresses → ¬config.Authenticates →
      FirstViolation config .noToken
  | zeroTimeout : config.hostPort ≠ "" → config.Addresses → config.Authenticates →
      config.timeoutSecs = 0 → FirstViolation config .zeroTimeout
  | zeroPageSize : config.hostPort ≠ "" → config.Addresses → config.Authenticates →
      0 < config.timeoutSecs → config.pageSize = 0 → FirstViolation config .zeroPageSize

theorem hasScheme_iff {hostPort : String} : hasScheme hostPort = true ↔
    ∃ rest, hostPort = "http://" ++ rest ∨ hostPort = "https://" ++ rest := by
  have hprefix : ∀ scheme : String, scheme.toList <+: hostPort.toList ↔
      ∃ rest, hostPort = scheme ++ rest := by
    intro scheme
    constructor
    · rintro ⟨rest, hrest⟩
      refine ⟨String.ofList rest, String.toList_inj.mp ?_⟩
      rw [String.toList_append, String.toList_ofList, hrest]
    · rintro ⟨rest, rfl⟩
      exact ⟨rest.toList, String.toList_append.symm⟩
  rw [hasScheme, Bool.or_eq_true, List.isPrefixOf_iff_prefix, List.isPrefixOf_iff_prefix, hprefix,
    hprefix, exists_or]

theorem not_authenticates_iff : ¬config.Authenticates ↔
    config.authProvider = .token ∧ config.jwtToken.getD "" = "" := by
  rw [Authenticates, Classical.not_imp]
  refine and_congr_right fun _ => ?_
  cases config.jwtToken <;> simp

theorem settles_validate (config : CatalogConfig) :
    Settles config.validate config.WellFormed config.FirstViolation := by
  have hscheme : (!hasScheme config.hostPort) = true ↔ ¬config.Addresses := by
    rw [Bool.not_eq_true', ← Bool.not_eq_true, hasScheme_iff, Addresses]
  have htimeout : ¬config.timeoutSecs = 0 ↔ 0 < config.timeoutSecs := UInt64.pos_iff_ne_zero.symm
  have hpageSize : ¬config.pageSize = 0 ↔ 0 < config.pageSize := UInt32.pos_iff_ne_zero.symm
  refine (Settles.guard CatalogConfigError.emptyHostPort fun _ =>
    .guard CatalogConfigError.noScheme fun _ => .guard CatalogConfigError.noToken fun _ =>
    .guard CatalogConfigError.zeroTimeout fun _ =>
    .guard CatalogConfigError.zeroPageSize fun _ => .ok ()).congr ?_ fun e => ?_
  · rw [hscheme, ← not_authenticates_iff, htimeout, hpageSize, Classical.not_not,
      Classical.not_not, and_true]
    exact ⟨fun ⟨h₁, h₂, h₃, h₄, h₅⟩ => ⟨h₁, h₂, h₃, h₄, h₅⟩,
      fun h => ⟨h.hostPort, h.addresses, h.authenticates, h.timeout, h.pageSize⟩⟩
  · rw [hscheme, ← not_authenticates_iff, htimeout, Classical.not_not, Classical.not_not]
    constructor
    · rintro (⟨h, rfl⟩ | ⟨h₁, ⟨h, rfl⟩ | ⟨h₂, ⟨h, rfl⟩ | ⟨h₃, ⟨h, rfl⟩ | ⟨h₄, ⟨h, rfl⟩ |
        ⟨-, ⟨⟩⟩⟩⟩⟩⟩)
      · exact .emptyHostPort h
      · exact .noScheme h₁ h
      · exact .noToken h₁ h₂ h
      · exact .zeroTimeout h₁ h₂ h₃ h
      · exact .zeroPageSize h₁ h₂ h₃ h₄ h
    · rintro (h | ⟨h₁, h⟩ | ⟨h₁, h₂, h⟩ | ⟨h₁, h₂, h₃, h⟩ | ⟨h₁, h₂, h₃, h₄, h⟩)
      · exact .inl ⟨h, rfl⟩
      · exact .inr ⟨h₁, .inl ⟨h, rfl⟩⟩
      · exact .inr ⟨h₁, .inr ⟨h₂, .inl ⟨h, rfl⟩⟩⟩
      · exact .inr ⟨h₁, .inr ⟨h₂, .inr ⟨h₃, .inl ⟨h, rfl⟩⟩⟩⟩
      · exact .inr ⟨h₁, .inr ⟨h₂, .inr ⟨h₃, .inr ⟨h₄, .inl ⟨h, rfl⟩⟩⟩⟩⟩

end DataQuality.CatalogConfig
