import ArpaNode.Core.Config
/-! The node's account (`core/src/types/config.rs`): `build_wallet_from_config` takes the signing
key from the first of the account's HD wallet, keystore and private key that is configured, and
a secret configured as `"env"` is read from an environment variable instead.  The wallet library
(`ethers`' `MnemonicBuilder`, `LocalWallet::decrypt_keystore`, the private key's `parse`) and the
environment (`env::var`) are parameters; `none` is a panic.  The function returns a `Result`,
but the HD wallet's two `unwrap`s turn a derivation path or an index the library rejects into a
panic. -/

namespace ArpaNode.Core

/-! ### The account -/

/-- `HDWallet`. -/
structure HDWallet where
  mnemonic : String
  path : Option String
  index : Nat
  passphrase : Option String
  deriving DecidableEq, Repr

/-- `Keystore`. -/
structure Keystore where
  path : String
  password : String
  deriving DecidableEq, Repr

/-- `Account`. -/
structure Account where
  hdwallet : Option HDWallet
  keystore : Option Keystore
  privateKey : Option String
  deriving DecidableEq, Repr

/-- Modelled from its uses in `config.rs`, its definition not being under `src/`: `ConfigError`,
into which `?` converts the environment's error `ν` and the wallet library's error `ε`. -/
inductive ConfigError (ν ε : Type) where
  | envVar (e : ν)
  | wallet (e : ε)
  | lackOfAccount
  deriving DecidableEq, Repr

/-- The wallet library, with `β` its mnemonic builder and `ω` a wallet. -/
structure WalletLib (β ω ε : Type) where
  /-- `MnemonicBuilder::<English>::default().phrase(mnemonic)`. -/
  phrase : String → β
  /-- `MnemonicBuilder::derivation_path`. -/
  derivationPath : β → String → Except ε β
  /-- `MnemonicBuilder::password`. -/
  password : β → String → β
  /-- `MnemonicBuilder::index`. -/
  index : β → Nat → Except ε β
  /-- `MnemonicBuilder::build`. -/
  build : β → Except ε ω
  /-- `LocalWallet::decrypt_keystore(path, password)`. -/
  decryptKeystore : String → String → Except ε ω
  /-- `private_key.parse::<Wallet<SigningKey>>()`. -/
  parsePrivateKey : String → Except ε ω

section Wallet

variable {β ω ε ν : Type}

/-- A configured secret: `"env"` stands for the environment variable `name`
(`env::var(name)?`), any other value for itself. -/
def fromEnv (var : String → Except ν String) (name value : String) :
    Except (ConfigError ν ε) String :=
  if value = "env" then (var name).mapError .envVar else .ok value

/-- `Config::get_node_management_rpc_token`. -/
def Config.getNodeManagementRpcToken (var : String → Except ν String) (c : Config) :
    Except (ConfigError ν ε) String :=
  fromEnv var "ARPA_NODE_MANAGEMENT_SERVER_TOKEN" c.nodeManagementRpcToken

/-- `if hd.path.is_some() { wallet = wallet.derivation_path(&hd.path.unwrap()).unwrap(); }`. -/
def withDerivationPath (lib : WalletLib β ω ε) (hd : HDWallet) (wallet : β) : Option β :=
  match hd.path with
  | some path => (lib.derivationPath wallet path).toOption
  | none => some wallet

/-- `if hd.passphrase.is_some() { wallet = wallet.password(&hd.passphrase.unwrap()); }`. -/
def withPassphrase (lib : WalletLib β ω ε) (hd : HDWallet) (wallet : β) : β :=
  match hd.passphrase with
  | some passphrase => lib.password wallet passphrase
  | none => wallet

/-- The HD wallet's builder from its mnemonic up to `.index(hd.index).unwrap()`. -/
def hdBuilder (lib : WalletLib β ω ε) (hd : HDWallet) (mnemonic : String) : Option β :=
  (withDerivationPath lib hd (lib.phrase mnemonic)).bind fun wallet =>
    (lib.index (withPassphrase lib hd wallet) hd.index).toOption

/-- The `hdwallet` arm of `build_wallet_from_config`. -/
def buildHdWallet (lib : WalletLib β ω ε) (var : String → Except ν String) (hd : HDWallet) :
    Option (Except (ConfigError ν ε) ω) :=
  match fromEnv var "ARPA_NODE_HD_ACCOUNT_MNEMONIC" hd.mnemonic with
  | .error e => some (.error e)
  | .ok mnemonic =>
    (hdBuilder lib hd mnemonic).map fun wallet => (lib.build wallet).mapError .wallet

/-- The `keystore` arm of `build_wallet_from_config`. -/
def buildKeystoreWallet (lib : WalletLib β ω ε) (var : String → Except ν String)
    (keystore : Keystore) : Except (ConfigError ν ε) ω :=
  (fromEnv var "ARPA_NODE_ACCOUNT_KEYSTORE_PASSWORD" keystore.password).bind fun password =>
    (lib.decryptKeystore keystore.path password).mapError .wallet

/-- The `private_key` arm of `build_wallet_from_config`. -/
def buildPrivateKeyWallet (lib : WalletLib β ω ε) (var : String → Except ν String)
    (privateKey : String) : Except (ConfigError ν ε) ω :=
  (fromEnv var "ARPA_NODE_ACCOUNT_PRIVATE_KEY" privateKey).bind fun privateKey =>
    (lib.parsePrivateKey privateKey).mapError .wallet

/-- `build_wallet_from_config`: the first configured of the HD wallet, the keystore and the
private key, or `LackOfAccount`. -/
def buildWalletFromConfig (lib : WalletLib β ω ε) (var : String → Except ν String)
    (account : Account) : Option (Except (ConfigError ν ε) ω) :=
  match account.hdwallet, account.keystore, account.privateKey with
  | some hd, _, _ => buildHdWallet lib var hd
  | none, some keystore, _ => some (buildKeystoreWallet lib var keystore)
  | none, none, some privateKey => some (buildPrivateKeyWallet lib var privateKey)
  | none, none, none => some (.error .lackOfAccount)

/-- The environment variable `build_wallet_from_config` reads for `account`: that of the source
it uses, when the secret there is `"env"`. -/
def envVarRead (account : Account) : Option String :=
  match account.hdwallet, account.keystore, account.privateKey with
  | some hd, _, _ => if hd.mnemonic = "env" then some "ARPA_NODE_HD_ACCOUNT_MNEMONIC" else none
  | none, some keystore, _ =>
    if keystore.password = "env" then some "ARPA_NODE_ACCOUNT_KEYSTORE_PASSWORD" else none
  | none, none, some privateKey =>
    if privateKey = "env" then some "ARPA_NODE_ACCOUNT_PRIVATE_KEY" else none
  | none, none, none => none

/-! ### Secrets -/

/-- Whatever the environment, a secret fails only with the environment's error. -/
theorem fromEnv_error {var : String → Except ν String} {name value : String}
    {e : ConfigError ν ε} (h : fromEnv var name value = .error e) :
    ∃ e', var name = .error e' ∧ e = .envVar e' := by
  unfold fromEnv at h
  split_ifs at h
  cases hv : var name <;> simp_all [Except.mapError]

/-- A secret reads the environment only when it is `"env"`. -/
theorem fromEnv_congr {var var' : String → Except ν String} {name value : String}
    (h : value = "env" → var name = var' name) :
    (fromEnv var name value : Except (ConfigError ν ε) String) = fromEnv var' name value := by
  unfold fromEnv
  split_ifs with hv
  · rw [h hv]
  · rfl

/-! ### Where the wallet comes from -/

theorem toOption_eq_none {α : Type} {x : Except ε α} : x.toOption = none ↔ ∃ e, x = .error e := by
  cases x <;> simp [Except.toOption]

theorem withDerivationPath_eq_none {lib : WalletLib β ω ε} {hd : HDWallet} {wallet : β} :
    withDerivationPath lib hd wallet = none ↔
      ∃ path e, hd.path = some path ∧ lib.derivationPath wallet path = .error e := by
  unfold withDerivationPath
  cases hd.path <;> simp [toOption_eq_none]

theorem hdBuilder_eq_none {lib : WalletLib β ω ε} {hd : HDWallet} {mnemonic : String} :
    hdBuilder lib hd mnemonic = none ↔
      (∃ path e, hd.path = some path ∧ lib.derivationPath (lib.phrase mnemonic) path = .error e) ∨
      ∃ wallet e, withDerivationPath lib hd (lib.phrase mnemonic) = some wallet ∧
        lib.index (withPassphrase lib hd wallet) hd.index = .error e := by
  rw [← withDerivationPath_eq_none, hdBuilder]
  cases withDerivationPath lib hd (lib.phrase mnemonic) <;> simp [toOption_eq_none]

/-- `build_wallet_from_config` panics exactly when the account's source is an HD wallet whose
mnemonic is read, and the library rejects its derivation path or its index. -/
theorem buildWalletFromConfig_eq_none_iff {lib : WalletLib β ω ε}
    {var : String → Except ν String} {account : Account} :
    buildWalletFromConfig lib var account = none ↔
      ∃ hd mnemonic, account.hdwallet = some hd ∧
        (fromEnv var "ARPA_NODE_HD_ACCOUNT_MNEMONIC" hd.mnemonic :
          Except (ConfigError ν ε) String) = .ok mnemonic ∧
        ((∃ path e, hd.path = some path ∧
            lib.derivationPath (lib.phrase mnemonic) path = .error e) ∨
          ∃ wallet e, withDerivationPath lib hd (lib.phrase mnemonic) = some wallet ∧
            lib.index (withPassphrase lib hd wallet) hd.index = .error e) := by
  unfold buildWalletFromConfig
  split
  · next hd _ _ h =>
    unfold buildHdWallet
    split
    · next e he => simp [h, he]
    · next mnemonic hm => simp [h, hm, hdBuilder_eq_none]
  all_goals simp_all

/-- A library that rejects the derivation path `"bad"`, and whose wallet is the secret it was
built from. -/
def pathCheckingLib : WalletLib String String String where
  phrase mnemonic := mnemonic
  derivationPath wallet path :=
    if path = "bad" then .error "invalid derivation path" else .ok wallet
  password wallet _ := wallet
  index wallet _ := .ok wallet
  build wallet := .ok wallet
  decryptKeystore _ password := .ok password
  parsePrivateKey privateKey := .ok privateKey

/-- An environment that sets every variable to the same secret. -/
def constantEnv (_ : String) : Except Unit String := .ok "secret"

example : buildWalletFromConfig pathCheckingLib constantEnv
    ⟨some ⟨"test", some "bad", 0, none⟩, some ⟨"keystore.json", "secret"⟩, none⟩ = none :=
  rfl

/-- A secret, once read, is passed to the library, whose error is converted: such a step never
fails with `LackOfAccount`. -/
theorem fromEnv_bind_ne_lackOfAccount {var : String → Except ν String} {name value : String}
    (f : String → Except ε ω) :
    (fromEnv var name value).bind (fun s => (f s).mapError ConfigError.wallet) ≠
      .error .lackOfAccount := by
  cases h : (fromEnv var name value : Except (ConfigError ν ε) String) with
  | error e =>
    obtain ⟨e', -, rfl⟩ := fromEnv_error h
    simp [Except.bind]
  | ok s => cases hf : f s <;> simp [Except.bind, Except.mapError, hf]

theorem buildHdWallet_ne_lackOfAccount {lib : WalletLib β ω ε}
    {var : String → Except ν String} {hd : HDWallet} :
    buildHdWallet lib var hd ≠ some (.error .lackOfAccount) := by
  unfold buildHdWallet
  split
  · next e he =>
    obtain ⟨e', -, rfl⟩ := fromEnv_error he
    simp
  · cases hdBuilder lib hd _ with
    | none => simp
    | some wallet => cases hb : lib.build wallet <;> simp [Except.mapError, hb]

/-- `build_wallet_from_config` fails with `LackOfAccount` exactly when no source is configured:
every other failure is the environment's or the library's. -/
theorem buildWalletFromConfig_lackOfAccount_iff {lib : WalletLib β ω ε}
    {var : String → Except ν String} {account : Account} :
    buildWalletFromConfig lib var account = some (.error .lackOfAccount) ↔
      account.hdwallet = none ∧ account.keystore = none ∧ account.privateKey = none := by
  constructor
  · intro h
    unfold buildWalletFromConfig at h
    split at h
    · exact absurd h buildHdWallet_ne_lackOfAccount
    · exact absurd (Option.some.inj h) (fromEnv_bind_ne_lackOfAccount _)
    · exact absurd (Option.some.inj h) (fromEnv_bind_ne_lackOfAccount _)
    · exact ⟨‹_›, ‹_›, ‹_›⟩
  · rintro ⟨h1, h2, h3⟩
    simp [buildWalletFromConfig, h1, h2, h3]

/-- `build_wallet_from_config` reads at most one environment variable, `envVarRead account`:
under two environments that agree on it, it builds the same wallet or fails alike. -/
theorem buildWalletFromConfig_env_congr {lib : WalletLib β ω ε}
    {var var' : String → Except ν String} {account : Account}
    (h : ∀ name, envVarRead account = some name → var name = var' name) :
    buildWalletFromConfig lib var account = buildWalletFromConfig lib var' account :=
  match account, h with
  | ⟨some hd, _, _⟩, h => by
    show buildHdWallet lib var hd = buildHdWallet lib var' hd
    unfold buildHdWallet
    rw [fromEnv_congr fun hv => h _ (if_pos hv)]
  | ⟨none, some keystore, _⟩, h => by
    show some (buildKeystoreWallet lib var keystore) = some (buildKeystoreWallet lib var' keystore)
    unfold buildKeystoreWallet
    rw [fromEnv_congr fun hv => h _ (if_pos hv)]
  | ⟨none, none, some privateKey⟩, h => by
    show some (buildPrivateKeyWallet lib var privateKey) =
      some (buildPrivateKeyWallet lib var' privateKey)
    unfold buildPrivateKeyWallet
    rw [fromEnv_congr fun hv => h _ (if_pos hv)]
  | ⟨none, none, none⟩, _ => rfl

/-- An environment that sets only the keystore's password. -/
def passwordOnlyEnv (name : String) : Except Unit String :=
  if name = "ARPA_NODE_ACCOUNT_KEYSTORE_PASSWORD" then .ok "secret" else .error ()

/-- An account whose keystore password and private key are both `"env"`. -/
def keystoreAccount : Account := ⟨none, some ⟨"keystore.json", "env"⟩, some "env"⟩

/-- The keystore wins, so the private key's variable is never read, and two environments that
differ on it build the same wallet. -/
theorem keystoreAccount_env_congr :
    (∀ name, envVarRead keystoreAccount = some name → passwordOnlyEnv name = constantEnv name) ∧
    buildWalletFromConfig pathCheckingLib passwordOnlyEnv keystoreAccount =
      buildWalletFromConfig pathCheckingLib constantEnv keystoreAccount :=
  have h : ∀ name, envVarRead keystoreAccount = some name →
      passwordOnlyEnv name = constantEnv name := fun name h => by
    cases Option.some.inj h
    rfl
  ⟨h, buildWalletFromConfig_env_congr h⟩

end Wallet

end ArpaNode.Core
