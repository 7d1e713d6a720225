import OidcProvider.RedemptionTransactions
import OidcProvider.ReplayedChains
import OidcProvider.RotationChains
import OidcProvider.ChainBinding
import OidcProvider.RevocationAgreement
import OidcProvider.DeviceRedemption
import OidcProvider.LockoutExecutions
import OidcProvider.SessionLifetimes
import OidcProvider.HintedLogout
import OidcProvider.LogoutFinality
import OidcProvider.AuthorizationNarrowing
import OidcProvider.DelegationChains
import OidcProvider.CodeExchange
import OidcProvider.ClientAssertions
import OidcProvider.RequestObjects
import OidcProvider.RegistrationManagement
import OidcProvider.EmailOtpAttempts
import OidcProvider.DynamoChainRevocation
import OidcProvider.DynamoGrantRevocation
import OidcProvider.PushCredentials
import OidcProvider.RemoteCache
import OidcProvider.DynamoGrantLinks
import OidcProvider.GrantPages
import OidcProvider.ForwardedAddresses
import OidcProvider.AttemptLimiter
import OidcProvider.AssuranceLevels
import OidcProvider.OffsetPages
import OidcProvider.LocaleFallback
