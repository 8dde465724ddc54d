import AliceLg.Go.Strconv
import AliceLg.Api.Community
import AliceLg.Api.FilterValue
import AliceLg.Api.FilterGroup
import AliceLg.Api.FilterGroup.Index
import AliceLg.Api.FilterGroup.Lookup
import AliceLg.Api.SearchFilters
import AliceLg.Api.SearchFilters.Union
import AliceLg.Api.SearchFilters.Pointwise
import AliceLg.Api.SearchFilters.Combine
import AliceLg.Api.SearchFilters.Sub
import AliceLg.Api.SearchFilters.MergeProperties
import AliceLg.Api.SearchFilters.Match
import AliceLg.Go.Strings
import AliceLg.Api.Query
import AliceLg.Api.SearchFilters.Invariant
import AliceLg.Api.SearchFilters.Counting
import AliceLg.Config.RangeCommunity
import AliceLg.Api.SearchFilters.Tokens
import AliceLg.Api.SearchFilters.Search
import AliceLg.Api.SearchFilters.Algebra
import AliceLg.Api.SearchFilters.Verdicts
import AliceLg.Api.BGPInfo
import AliceLg.Config.Communities
