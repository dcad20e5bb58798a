import ScalarWire.Zone.Region

/-!
# Regions of Europe

The phases of the European regions, from local mean time to the rules in force far ahead. Dublin
keeps summer time as its standard and moves back in winter.
-/

namespace ScalarWire.Region

def london : Region :=
  let localMean : Phase := ⟨⟨-75, by decide⟩, ⟨-75, by decide⟩⟩
  let standard1 : Phase := ⟨.utc, .utc⟩
  let summer : Phase := ⟨.utc, ⟨3600, by decide⟩⟩
  let doubleSummer : Phase := ⟨.utc, ⟨7200, by decide⟩⟩
  let standard2 : Phase := ⟨⟨3600, by decide⟩, ⟨3600, by decide⟩⟩
  ⟨"Europe/London", localMean,
    [(-3852662325, standard1), (-1691964000, summer), (-1680472800, standard1),
     (-1664143200, summer), (-1650146400, standard1), (-1633903200, summer),
     (-1617487200, standard1), (-1601848800, summer), (-1586037600, standard1),
     (-1570399200, summer), (-1552168800, standard1), (-1538344800, summer),
     (-1522533600, standard1), (-1507500000, summer), (-1490565600, standard1),
     (-1473631200, summer), (-1460930400, standard1), (-1442786400, summer),
     (-1428876000, standard1), (-1410732000, summer), (-1396216800, standard1),
     (-1379282400, summer), (-1364767200, standard1), (-1348437600, summer),
     (-1333317600, standard1), (-1315778400, summer), (-1301263200, standard1),
     (-1284328800, summer), (-1269813600, standard1), (-1253484000, summer),
     (-1238364000, standard1), (-1221429600, summer), (-1206914400, standard1),
     (-1189980000, summer), (-1175464800, standard1), (-1159135200, summer),
     (-1143410400, standard1), (-1126476000, summer), (-1111960800, standard1),
     (-1095631200, summer), (-1080511200, standard1), (-1063576800, summer),
     (-1049061600, standard1), (-1032127200, summer), (-1017612000, standard1),
     (-1001282400, summer), (-986162400, standard1), (-969228000, summer), (-950479200, standard1),
     (-942012000, summer), (-904518000, doubleSummer), (-896050800, summer),
     (-875487600, doubleSummer), (-864601200, summer), (-844038000, doubleSummer),
     (-832546800, summer), (-812588400, doubleSummer), (-798073200, summer),
     (-781052400, doubleSummer), (-772066800, summer), (-764805600, standard1),
     (-748476000, summer), (-733356000, standard1), (-719445600, summer),
     (-717030000, doubleSummer), (-706748400, summer), (-699487200, standard1),
     (-687996000, summer), (-668037600, standard1), (-654732000, summer), (-636588000, standard1),
     (-622072800, summer), (-605743200, standard1), (-590623200, summer), (-574293600, standard1),
     (-558568800, summer), (-542239200, standard1), (-527119200, summer), (-512604000, standard1),
     (-496274400, summer), (-481154400, standard1), (-464220000, summer), (-449704800, standard1),
     (-432165600, summer), (-417650400, standard1), (-401320800, summer), (-386200800, standard1),
     (-369266400, summer), (-354751200, standard1), (-337816800, summer), (-323301600, standard1),
     (-306972000, summer), (-291852000, standard1), (-276732000, summer), (-257983200, standard1),
     (-245282400, summer), (-226533600, standard1), (-213228000, summer), (-195084000, standard1),
     (-182383200, summer), (-163634400, standard1), (-150933600, summer), (-132184800, standard1),
     (-119484000, summer), (-100735200, standard1), (-88034400, summer), (-68680800, standard1),
     (-59004000, summer), (-37242000, standard2), (57722400, standard1), (69818400, summer),
     (89172000, standard1), (101268000, summer), (120621600, standard1), (132717600, summer),
     (152071200, standard1), (164167200, summer), (183520800, standard1), (196221600, summer),
     (214970400, standard1), (227671200, summer), (246420000, standard1), (259120800, summer),
     (278474400, standard1), (290570400, summer), (309924000, standard1), (322020000, summer),
     (341373600, standard1), (354675600, summer), (372819600, standard1), (386125200, summer),
     (404269200, standard1), (417574800, summer), (435718800, standard1), (449024400, summer),
     (467773200, standard1), (481078800, summer), (499222800, standard1), (512528400, summer),
     (530672400, standard1), (543978000, summer), (562122000, standard1), (575427600, summer),
     (593571600, standard1), (606877200, summer), (625626000, standard1), (638326800, summer),
     (657075600, standard1), (670381200, summer), (688525200, standard1), (701830800, summer),
     (719974800, standard1), (733280400, summer), (751424400, standard1), (764730000, summer),
     (782874000, standard1), (796179600, summer), (814323600, standard1), (828234000, summer),
     (846378000, standard1), (859683600, summer), (877827600, standard1), (891133200, summer),
     (909277200, standard1), (922582800, summer), (941331600, standard1), (954032400, summer),
     (972781200, standard1), (985482000, summer), (1004230800, standard1), (1017536400, summer),
     (1035680400, standard1), (1048986000, summer), (1067130000, standard1), (1080435600, summer),
     (1099184400, standard1), (1111885200, summer), (1130634000, standard1), (1143334800, summer),
     (1162083600, standard1), (1174784400, summer), (1193533200, standard1), (1206838800, summer),
     (1224982800, standard1), (1238288400, summer), (1256432400, standard1), (1269738000, summer),
     (1288486800, standard1), (1301187600, summer), (1319936400, standard1), (1332637200, summer),
     (1351386000, standard1), (1364691600, summer), (1382835600, standard1), (1396141200, summer),
     (1414285200, standard1), (1427590800, summer), (1445734800, standard1), (1459040400, summer),
     (1477789200, standard1), (1490490000, summer), (1509238800, standard1), (1521939600, summer),
     (1540688400, standard1), (1553994000, summer), (1572138000, standard1), (1585443600, summer),
     (1603587600, standard1), (1616893200, summer), (1635642000, standard1), (1648342800, summer),
     (1667091600, standard1), (1679792400, summer), (1698541200, standard1), (1711846800, summer),
     (1729990800, standard1), (1743296400, summer), (1761440400, standard1), (1774746000, summer),
     (1792890000, standard1), (1806195600, summer), (1824944400, standard1), (1837645200, summer),
     (1856394000, standard1), (1869094800, summer), (1887843600, standard1), (1901149200, summer),
     (1919293200, standard1), (1932598800, summer), (1950742800, standard1), (1964048400, summer),
     (1982797200, standard1), (1995498000, summer), (2014246800, standard1), (2026947600, summer),
     (2045696400, standard1), (2058397200, summer), (2077146000, standard1), (2090451600, summer),
     (2108595600, standard1), (2121901200, summer), (2140045200, standard1), (2153350800, summer),
     (2172099600, standard1), (2184800400, summer), (2203549200, standard1), (2216250000, summer),
     (2234998800, standard1), (2248304400, summer), (2266448400, standard1), (2279754000, summer),
     (2297898000, standard1), (2311203600, summer), (2329347600, standard1), (2342653200, summer),
     (2361402000, standard1), (2374102800, summer), (2392851600, standard1), (2405552400, summer),
     (2424301200, standard1), (2437606800, summer), (2455750800, standard1), (2469056400, summer),
     (2487200400, standard1), (2500506000, summer), (2519254800, standard1), (2531955600, summer),
     (2550704400, standard1), (2563405200, summer), (2582154000, standard1), (2595459600, summer),
     (2613603600, standard1), (2626909200, summer), (2645053200, standard1), (2658358800, summer),
     (2676502800, standard1), (2689808400, summer), (2708557200, standard1), (2721258000, summer),
     (2740006800, standard1), (2752707600, summer), (2771456400, standard1), (2784762000, summer),
     (2802906000, standard1), (2816211600, summer), (2834355600, standard1), (2847661200, summer),
     (2866410000, standard1), (2879110800, summer), (2897859600, standard1), (2910560400, summer),
     (2929309200, standard1), (2942010000, summer), (2960758800, standard1), (2974064400, summer),
     (2992208400, standard1), (3005514000, summer), (3023658000, standard1), (3036963600, summer),
     (3055712400, standard1), (3068413200, summer), (3087162000, standard1), (3099862800, summer),
     (3118611600, standard1), (3131917200, summer), (3150061200, standard1), (3163366800, summer),
     (3181510800, standard1), (3194816400, summer), (3212960400, standard1), (3226266000, summer),
     (3245014800, standard1), (3257715600, summer), (3276464400, standard1), (3289165200, summer),
     (3307914000, standard1), (3321219600, summer), (3339363600, standard1), (3352669200, summer),
     (3370813200, standard1), (3384118800, summer), (3402867600, standard1), (3415568400, summer),
     (3434317200, standard1), (3447018000, summer), (3465766800, standard1), (3479072400, summer),
     (3497216400, standard1), (3510522000, summer), (3528666000, standard1), (3541971600, summer),
     (3560115600, standard1), (3573421200, summer), (3592170000, standard1), (3604870800, summer),
     (3623619600, standard1), (3636320400, summer), (3655069200, standard1), (3668374800, summer),
     (3686518800, standard1), (3699824400, summer), (3717968400, standard1), (3731274000, summer),
     (3750022800, standard1), (3762723600, summer), (3781472400, standard1), (3794173200, summer),
     (3812922000, standard1), (3825622800, summer), (3844371600, standard1), (3857677200, summer),
     (3875821200, standard1), (3889126800, summer), (3907270800, standard1), (3920576400, summer),
     (3939325200, standard1), (3952026000, summer), (3970774800, standard1), (3983475600, summer),
     (4002224400, standard1), (4015530000, summer), (4033674000, standard1), (4046979600, summer),
     (4065123600, standard1), (4078429200, summer), (4096573200, standard1)]⟩

def dublin : Region :=
  let localMean : Phase := ⟨⟨-1521, by decide⟩, ⟨-1521, by decide⟩⟩
  let summer1 : Phase := ⟨⟨-1521, by decide⟩, ⟨2079, by decide⟩⟩
  let standard1 : Phase := ⟨.utc, .utc⟩
  let summer2 : Phase := ⟨.utc, ⟨3600, by decide⟩⟩
  let standard2 : Phase := ⟨⟨3600, by decide⟩, ⟨3600, by decide⟩⟩
  let winter : Phase := ⟨⟨3600, by decide⟩, .utc⟩
  ⟨"Europe/Dublin", localMean,
    [(-2821649679, localMean), (-1691962479, summer1), (-1680471279, standard1),
     (-1664143200, summer2), (-1650146400, standard1), (-1633903200, summer2),
     (-1617487200, standard1), (-1601848800, summer2), (-1586037600, standard1),
     (-1570399200, summer2), (-1552168800, standard1), (-1538344800, summer2),
     (-1522533600, standard1), (-1507500000, summer2), (-1490565600, standard1),
     (-1473631200, summer2), (-1460930400, standard1), (-1442786400, summer2),
     (-1428876000, standard1), (-1410732000, summer2), (-1396216800, standard1),
     (-1379282400, summer2), (-1364767200, standard1), (-1348437600, summer2),
     (-1333317600, standard1), (-1315778400, summer2), (-1301263200, standard1),
     (-1284328800, summer2), (-1269813600, standard1), (-1253484000, summer2),
     (-1238364000, standard1), (-1221429600, summer2), (-1206914400, standard1),
     (-1189980000, summer2), (-1175464800, standard1), (-1159135200, summer2),
     (-1143410400, standard1), (-1126476000, summer2), (-1111960800, standard1),
     (-1095631200, summer2), (-1080511200, standard1), (-1063576800, summer2),
     (-1049061600, standard1), (-1032127200, summer2), (-1017612000, standard1),
     (-1001282400, summer2), (-986162400, standard1), (-969228000, summer2),
     (-950479200, standard1), (-942012000, summer2), (-733356000, standard1),
     (-719445600, summer2), (-699487200, standard1), (-684972000, summer2),
     (-668037600, standard1), (-654732000, summer2), (-636588000, standard1),
     (-622072800, summer2), (-605743200, standard1), (-590623200, summer2),
     (-574293600, standard1), (-558568800, summer2), (-542239200, standard1),
     (-527119200, summer2), (-512604000, standard1), (-496274400, summer2),
     (-481154400, standard1), (-464220000, summer2), (-449704800, standard1),
     (-432165600, summer2), (-417650400, standard1), (-401320800, summer2),
     (-386200800, standard1), (-369266400, summer2), (-354751200, standard1),
     (-337816800, summer2), (-323301600, standard1), (-306972000, summer2),
     (-291852000, standard1), (-276732000, summer2), (-257983200, standard1),
     (-245282400, summer2), (-226533600, standard1), (-213228000, summer2),
     (-195084000, standard1), (-182383200, summer2), (-163634400, standard1),
     (-150933600, summer2), (-132184800, standard1), (-119484000, summer2),
     (-100735200, standard1), (-88034400, summer2), (-68680800, standard1), (-59004000, summer2),
     (-37242000, standard2), (57722400, winter), (69818400, standard2), (89172000, winter),
     (101268000, standard2), (120621600, winter), (132717600, standard2), (152071200, winter),
     (164167200, standard2), (183520800, winter), (196221600, standard2), (214970400, winter),
     (227671200, standard2), (246420000, winter), (259120800, standard2), (278474400, winter),
     (290570400, standard2), (309924000, winter), (322020000, standard2), (341373600, winter),
     (354675600, standard2), (372819600, winter), (386125200, standard2), (404269200, winter),
     (417574800, standard2), (435718800, winter), (449024400, standard2), (467773200, winter),
     (481078800, standard2), (499222800, winter), (512528400, standard2), (530672400, winter),
     (543978000, standard2), (562122000, winter), (575427600, standard2), (593571600, winter),
     (606877200, standard2), (625626000, winter), (638326800, standard2), (657075600, winter),
     (670381200, standard2), (688525200, winter), (701830800, standard2), (719974800, winter),
     (733280400, standard2), (751424400, winter), (764730000, standard2), (782874000, winter),
     (796179600, standard2), (814323600, winter), (828234000, standard2), (846378000, winter),
     (859683600, standard2), (877827600, winter), (891133200, standard2), (909277200, winter),
     (922582800, standard2), (941331600, winter), (954032400, standard2), (972781200, winter),
     (985482000, standard2), (1004230800, winter), (1017536400, standard2), (1035680400, winter),
     (1048986000, standard2), (1067130000, winter), (1080435600, standard2), (1099184400, winter),
     (1111885200, standard2), (1130634000, winter), (1143334800, standard2), (1162083600, winter),
     (1174784400, standard2), (1193533200, winter), (1206838800, standard2), (1224982800, winter),
     (1238288400, standard2), (1256432400, winter), (1269738000, standard2), (1288486800, winter),
     (1301187600, standard2), (1319936400, winter), (1332637200, standard2), (1351386000, winter),
     (1364691600, standard2), (1382835600, winter), (1396141200, standard2), (1414285200, winter),
     (1427590800, standard2), (1445734800, winter), (1459040400, standard2), (1477789200, winter),
     (1490490000, standard2), (1509238800, winter), (1521939600, standard2), (1540688400, winter),
     (1553994000, standard2), (1572138000, winter), (1585443600, standard2), (1603587600, winter),
     (1616893200, standard2), (1635642000, winter), (1648342800, standard2), (1667091600, winter),
     (1679792400, standard2), (1698541200, winter), (1711846800, standard2), (1729990800, winter),
     (1743296400, standard2), (1761440400, winter), (1774746000, standard2), (1792890000, winter),
     (1806195600, standard2), (1824944400, winter), (1837645200, standard2), (1856394000, winter),
     (1869094800, standard2), (1887843600, winter), (1901149200, standard2), (1919293200, winter),
     (1932598800, standard2), (1950742800, winter), (1964048400, standard2), (1982797200, winter),
     (1995498000, standard2), (2014246800, winter), (2026947600, standard2), (2045696400, winter),
     (2058397200, standard2), (2077146000, winter), (2090451600, standard2), (2108595600, winter),
     (2121901200, standard2), (2140045200, winter), (2153350800, standard2), (2172099600, winter),
     (2184800400, standard2), (2203549200, winter), (2216250000, standard2), (2234998800, winter),
     (2248304400, standard2), (2266448400, winter), (2279754000, standard2), (2297898000, winter),
     (2311203600, standard2), (2329347600, winter), (2342653200, standard2), (2361402000, winter),
     (2374102800, standard2), (2392851600, winter), (2405552400, standard2), (2424301200, winter),
     (2437606800, standard2), (2455750800, winter), (2469056400, standard2), (2487200400, winter),
     (2500506000, standard2), (2519254800, winter), (2531955600, standard2), (2550704400, winter),
     (2563405200, standard2), (2582154000, winter), (2595459600, standard2), (2613603600, winter),
     (2626909200, standard2), (2645053200, winter), (2658358800, standard2), (2676502800, winter),
     (2689808400, standard2), (2708557200, winter), (2721258000, standard2), (2740006800, winter),
     (2752707600, standard2), (2771456400, winter), (2784762000, standard2), (2802906000, winter),
     (2816211600, standard2), (2834355600, winter), (2847661200, standard2), (2866410000, winter),
     (2879110800, standard2), (2897859600, winter), (2910560400, standard2), (2929309200, winter),
     (2942010000, standard2), (2960758800, winter), (2974064400, standard2), (2992208400, winter),
     (3005514000, standard2), (3023658000, winter), (3036963600, standard2), (3055712400, winter),
     (3068413200, standard2), (3087162000, winter), (3099862800, standard2), (3118611600, winter),
     (3131917200, standard2), (3150061200, winter), (3163366800, standard2), (3181510800, winter),
     (3194816400, standard2), (3212960400, winter), (3226266000, standard2), (3245014800, winter),
     (3257715600, standard2), (3276464400, winter), (3289165200, standard2), (3307914000, winter),
     (3321219600, standard2), (3339363600, winter), (3352669200, standard2), (3370813200, winter),
     (3384118800, standard2), (3402867600, winter), (3415568400, standard2), (3434317200, winter),
     (3447018000, standard2), (3465766800, winter), (3479072400, standard2), (3497216400, winter),
     (3510522000, standard2), (3528666000, winter), (3541971600, standard2), (3560115600, winter),
     (3573421200, standard2), (3592170000, winter), (3604870800, standard2), (3623619600, winter),
     (3636320400, standard2), (3655069200, winter), (3668374800, standard2), (3686518800, winter),
     (3699824400, standard2), (3717968400, winter), (3731274000, standard2), (3750022800, winter),
     (3762723600, standard2), (3781472400, winter), (3794173200, standard2), (3812922000, winter),
     (3825622800, standard2), (3844371600, winter), (3857677200, standard2), (3875821200, winter),
     (3889126800, standard2), (3907270800, winter), (3920576400, standard2), (3939325200, winter),
     (3952026000, standard2), (3970774800, winter), (3983475600, standard2), (4002224400, winter),
     (4015530000, standard2), (4033674000, winter), (4046979600, standard2), (4065123600, winter),
     (4078429200, standard2), (4096573200, winter)]⟩

def paris : Region :=
  let localMean : Phase := ⟨⟨561, by decide⟩, ⟨561, by decide⟩⟩
  let standard1 : Phase := ⟨.utc, .utc⟩
  let summer1 : Phase := ⟨.utc, ⟨3600, by decide⟩⟩
  let summer2 : Phase := ⟨⟨3600, by decide⟩, ⟨7200, by decide⟩⟩
  let standard2 : Phase := ⟨⟨3600, by decide⟩, ⟨3600, by decide⟩⟩
  let doubleSummer : Phase := ⟨.utc, ⟨7200, by decide⟩⟩
  ⟨"Europe/Paris", localMean,
    [(-2486592561, localMean), (-1855958961, standard1), (-1689814800, summer1),
     (-1680397200, standard1), (-1665363600, summer1), (-1648342800, standard1),
     (-1635123600, summer1), (-1616893200, standard1), (-1604278800, summer1),
     (-1585443600, standard1), (-1574038800, summer1), (-1552266000, standard1),
     (-1539997200, summer1), (-1520557200, standard1), (-1507510800, summer1),
     (-1490576400, standard1), (-1470618000, summer1), (-1459126800, standard1),
     (-1444006800, summer1), (-1427677200, standard1), (-1411952400, summer1),
     (-1396227600, standard1), (-1379293200, summer1), (-1364778000, standard1),
     (-1348448400, summer1), (-1333328400, standard1), (-1316394000, summer1),
     (-1301274000, standard1), (-1284339600, summer1), (-1269824400, standard1),
     (-1253494800, summer1), (-1238374800, standard1), (-1221440400, summer1),
     (-1206925200, standard1), (-1191200400, summer1), (-1175475600, standard1),
     (-1160355600, summer1), (-1143421200, standard1), (-1127696400, summer1),
     (-1111971600, standard1), (-1096851600, summer1), (-1080522000, standard1),
     (-1063587600, summer1), (-1049072400, standard1), (-1033347600, summer1),
     (-1017622800, standard1), (-1002502800, summer1), (-986173200, standard1),
     (-969238800, summer1), (-950490000, standard1), (-942012000, summer1), (-932436000, summer2),
     (-857257200, standard2), (-844556400, summer2), (-828226800, standard2),
     (-812502000, summer2), (-800071200, doubleSummer), (-796266000, summer1),
     (-781052400, doubleSummer), (-766623600, standard2), (196819200, summer2),
     (212540400, standard2), (228877200, summer2), (243997200, standard2), (260326800, summer2),
     (276051600, standard2), (291776400, summer2), (307501200, standard2), (323830800, summer2),
     (338950800, standard2), (354675600, summer2), (370400400, standard2), (386125200, summer2),
     (401850000, standard2), (417574800, summer2), (433299600, standard2), (449024400, summer2),
     (465354000, standard2), (481078800, summer2), (496803600, standard2), (512528400, summer2),
     (528253200, standard2), (543978000, summer2), (559702800, standard2), (575427600, summer2),
     (591152400, standard2), (606877200, summer2), (622602000, standard2), (638326800, summer2),
     (654656400, standard2), (670381200, summer2), (686106000, standard2), (701830800, summer2),
     (717555600, standard2), (733280400, summer2), (749005200, standard2), (764730000, summer2),
     (780454800, standard2), (796179600, summer2), (811904400, standard2), (828234000, summer2),
     (846378000, standard2), (859683600, summer2), (877827600, standard2), (891133200, summer2),
     (909277200, standard2), (922582800, summer2), (941331600, standard2), (954032400, summer2),
     (972781200, standard2), (985482000, summer2), (1004230800, standard2), (1017536400, summer2),
     (1035680400, standard2), (1048986000, summer2), (1067130000, standard2),
     (1080435600, summer2), (1099184400, standard2), (1111885200, summer2),
     (1130634000, standard2), (1143334800, summer2), (1162083600, standard2),
     (1174784400, summer2), (1193533200, standard2), (1206838800, summer2),
     (1224982800, standard2), (1238288400, summer2), (1256432400, standard2),
     (1269738000, summer2), (1288486800, standard2), (1301187600, summer2),
     (1319936400, standard2), (1332637200, summer2), (1351386000, standard2),
     (1364691600, summer2), (1382835600, standard2), (1396141200, summer2),
     (1414285200, standard2), (1427590800, summer2), (1445734800, standard2),
     (1459040400, summer2), (1477789200, standard2), (1490490000, summer2),
     (1509238800, standard2), (1521939600, summer2), (1540688400, standard2),
     (1553994000, summer2), (1572138000, standard2), (1585443600, summer2),
     (1603587600, standard2), (1616893200, summer2), (1635642000, standard2),
     (1648342800, summer2), (1667091600, standard2), (1679792400, summer2),
     (1698541200, standard2), (1711846800, summer2), (1729990800, standard2),
     (1743296400, summer2), (1761440400, standard2), (1774746000, summer2),
     (1792890000, standard2), (1806195600, summer2), (1824944400, standard2),
     (1837645200, summer2), (1856394000, standard2), (1869094800, summer2),
     (1887843600, standard2), (1901149200, summer2), (1919293200, standard2),
     (1932598800, summer2), (1950742800, standard2), (1964048400, summer2),
     (1982797200, standard2), (1995498000, summer2), (2014246800, standard2),
     (2026947600, summer2), (2045696400, standard2), (2058397200, summer2),
     (2077146000, standard2), (2090451600, summer2), (2108595600, standard2),
     (2121901200, summer2), (2140045200, standard2), (2153350800, summer2),
     (2172099600, standard2), (2184800400, summer2), (2203549200, standard2),
     (2216250000, summer2), (2234998800, standard2), (2248304400, summer2),
     (2266448400, standard2), (2279754000, summer2), (2297898000, standard2),
     (2311203600, summer2), (2329347600, standard2), (2342653200, summer2),
     (2361402000, standard2), (2374102800, summer2), (2392851600, standard2),
     (2405552400, summer2), (2424301200, standard2), (2437606800, summer2),
     (2455750800, standard2), (2469056400, summer2), (2487200400, standard2),
     (2500506000, summer2), (2519254800, standard2), (2531955600, summer2),
     (2550704400, standard2), (2563405200, summer2), (2582154000, standard2),
     (2595459600, summer2), (2613603600, standard2), (2626909200, summer2),
     (2645053200, standard2), (2658358800, summer2), (2676502800, standard2),
     (2689808400, summer2), (2708557200, standard2), (2721258000, summer2),
     (2740006800, standard2), (2752707600, summer2), (2771456400, standard2),
     (2784762000, summer2), (2802906000, standard2), (2816211600, summer2),
     (2834355600, standard2), (2847661200, summer2), (2866410000, standard2),
     (2879110800, summer2), (2897859600, standard2), (2910560400, summer2),
     (2929309200, standard2), (2942010000, summer2), (2960758800, standard2),
     (2974064400, summer2), (2992208400, standard2), (3005514000, summer2),
     (3023658000, standard2), (3036963600, summer2), (3055712400, standard2),
     (3068413200, summer2), (3087162000, standard2), (3099862800, summer2),
     (3118611600, standard2), (3131917200, summer2), (3150061200, standard2),
     (3163366800, summer2), (3181510800, standard2), (3194816400, summer2),
     (3212960400, standard2), (3226266000, summer2), (3245014800, standard2),
     (3257715600, summer2), (3276464400, standard2), (3289165200, summer2),
     (3307914000, standard2), (3321219600, summer2), (3339363600, standard2),
     (3352669200, summer2), (3370813200, standard2), (3384118800, summer2),
     (3402867600, standard2), (3415568400, summer2), (3434317200, standard2),
     (3447018000, summer2), (3465766800, standard2), (3479072400, summer2),
     (3497216400, standard2), (3510522000, summer2), (3528666000, standard2),
     (3541971600, summer2), (3560115600, standard2), (3573421200, summer2),
     (3592170000, standard2), (3604870800, summer2), (3623619600, standard2),
     (3636320400, summer2), (3655069200, standard2), (3668374800, summer2),
     (3686518800, standard2), (3699824400, summer2), (3717968400, standard2),
     (3731274000, summer2), (3750022800, standard2), (3762723600, summer2),
     (3781472400, standard2), (3794173200, summer2), (3812922000, standard2),
     (3825622800, summer2), (3844371600, standard2), (3857677200, summer2),
     (3875821200, standard2), (3889126800, summer2), (3907270800, standard2),
     (3920576400, summer2), (3939325200, standard2), (3952026000, summer2),
     (3970774800, standard2), (3983475600, summer2), (4002224400, standard2),
     (4015530000, summer2), (4033674000, standard2), (4046979600, summer2),
     (4065123600, standard2), (4078429200, summer2), (4096573200, standard2)]⟩

def berlin : Region :=
  let localMean : Phase := ⟨⟨3208, by decide⟩, ⟨3208, by decide⟩⟩
  let standard : Phase := ⟨⟨3600, by decide⟩, ⟨3600, by decide⟩⟩
  let summer : Phase := ⟨⟨3600, by decide⟩, ⟨7200, by decide⟩⟩
  let doubleSummer : Phase := ⟨⟨3600, by decide⟩, ⟨10800, by decide⟩⟩
  ⟨"Europe/Berlin", localMean,
    [(-2422054408, standard), (-1693706400, summer), (-1680483600, standard),
     (-1663455600, summer), (-1650150000, standard), (-1632006000, summer),
     (-1618700400, standard), (-938905200, summer), (-857257200, standard), (-844556400, summer),
     (-828226800, standard), (-812502000, summer), (-796777200, standard), (-781052400, summer),
     (-776563200, doubleSummer), (-765936000, summer), (-761180400, standard),
     (-748479600, summer), (-733273200, standard), (-717631200, summer),
     (-714610800, doubleSummer), (-710380800, summer), (-701910000, standard),
     (-684975600, summer), (-670460400, standard), (-654130800, summer), (-639010800, standard),
     (323830800, summer), (338950800, standard), (354675600, summer), (370400400, standard),
     (386125200, summer), (401850000, standard), (417574800, summer), (433299600, standard),
     (449024400, summer), (465354000, standard), (481078800, summer), (496803600, standard),
     (512528400, summer), (528253200, standard), (543978000, summer), (559702800, standard),
     (575427600, summer), (591152400, standard), (606877200, summer), (622602000, standard),
     (638326800, summer), (654656400, standard), (670381200, summer), (686106000, standard),
     (701830800, summer), (717555600, standard), (733280400, summer), (749005200, standard),
     (764730000, summer), (780454800, standard), (796179600, summer), (811904400, standard),
     (828234000, summer), (846378000, standard), (859683600, summer), (877827600, standard),
     (891133200, summer), (909277200, standard), (922582800, summer), (941331600, standard),
     (954032400, summer), (972781200, standard), (985482000, summer), (1004230800, standard),
     (1017536400, summer), (1035680400, standard), (1048986000, summer), (1067130000, standard),
     (1080435600, summer), (1099184400, standard), (1111885200, summer), (1130634000, standard),
     (1143334800, summer), (1162083600, standard), (1174784400, summer), (1193533200, standard),
     (1206838800, summer), (1224982800, standard), (1238288400, summer), (1256432400, standard),
     (1269738000, summer), (1288486800, standard), (1301187600, summer), (1319936400, standard),
     (1332637200, summer), (1351386000, standard), (1364691600, summer), (1382835600, standard),
     (1396141200, summer), (1414285200, standard), (1427590800, summer), (1445734800, standard),
     (1459040400, summer), (1477789200, standard), (1490490000, summer), (1509238800, standard),
     (1521939600, summer), (1540688400, standard), (1553994000, summer), (1572138000, standard),
     (1585443600, summer), (1603587600, standard), (1616893200, summer), (1635642000, standard),
     (1648342800, summer), (1667091600, standard), (1679792400, summer), (1698541200, standard),
     (1711846800, summer), (1729990800, standard), (1743296400, summer), (1761440400, standard),
     (1774746000, summer), (1792890000, standard), (1806195600, summer), (1824944400, standard),
     (1837645200, summer), (1856394000, standard), (1869094800, summer), (1887843600, standard),
     (1901149200, summer), (1919293200, standard), (1932598800, summer), (1950742800, standard),
     (1964048400, summer), (1982797200, standard), (1995498000, summer), (2014246800, standard),
     (2026947600, summer), (2045696400, standard), (2058397200, summer), (2077146000, standard),
     (2090451600, summer), (2108595600, standard), (2121901200, summer), (2140045200, standard),
     (2153350800, summer), (2172099600, standard), (2184800400, summer), (2203549200, standard),
     (2216250000, summer), (2234998800, standard), (2248304400, summer), (2266448400, standard),
     (2279754000, summer), (2297898000, standard), (2311203600, summer), (2329347600, standard),
     (2342653200, summer), (2361402000, standard), (2374102800, summer), (2392851600, standard),
     (2405552400, summer), (2424301200, standard), (2437606800, summer), (2455750800, standard),
     (2469056400, summer), (2487200400, standard), (2500506000, summer), (2519254800, standard),
     (2531955600, summer), (2550704400, standard), (2563405200, summer), (2582154000, standard),
     (2595459600, summer), (2613603600, standard), (2626909200, summer), (2645053200, standard),
     (2658358800, summer), (2676502800, standard), (2689808400, summer), (2708557200, standard),
     (2721258000, summer), (2740006800, standard), (2752707600, summer), (2771456400, standard),
     (2784762000, summer), (2802906000, standard), (2816211600, summer), (2834355600, standard),
     (2847661200, summer), (2866410000, standard), (2879110800, summer), (2897859600, standard),
     (2910560400, summer), (2929309200, standard), (2942010000, summer), (2960758800, standard),
     (2974064400, summer), (2992208400, standard), (3005514000, summer), (3023658000, standard),
     (3036963600, summer), (3055712400, standard), (3068413200, summer), (3087162000, standard),
     (3099862800, summer), (3118611600, standard), (3131917200, summer), (3150061200, standard),
     (3163366800, summer), (3181510800, standard), (3194816400, summer), (3212960400, standard),
     (3226266000, summer), (3245014800, standard), (3257715600, summer), (3276464400, standard),
     (3289165200, summer), (3307914000, standard), (3321219600, summer), (3339363600, standard),
     (3352669200, summer), (3370813200, standard), (3384118800, summer), (3402867600, standard),
     (3415568400, summer), (3434317200, standard), (3447018000, summer), (3465766800, standard),
     (3479072400, summer), (3497216400, standard), (3510522000, summer), (3528666000, standard),
     (3541971600, summer), (3560115600, standard), (3573421200, summer), (3592170000, standard),
     (3604870800, summer), (3623619600, standard), (3636320400, summer), (3655069200, standard),
     (3668374800, summer), (3686518800, standard), (3699824400, summer), (3717968400, standard),
     (3731274000, summer), (3750022800, standard), (3762723600, summer), (3781472400, standard),
     (3794173200, summer), (3812922000, standard), (3825622800, summer), (3844371600, standard),
     (3857677200, summer), (3875821200, standard), (3889126800, summer), (3907270800, standard),
     (3920576400, summer), (3939325200, standard), (3952026000, summer), (3970774800, standard),
     (3983475600, summer), (4002224400, standard), (4015530000, summer), (4033674000, standard),
     (4046979600, summer), (4065123600, standard), (4078429200, summer), (4096573200, standard)]⟩

def cet : Region :=
  let localMean : Phase := ⟨⟨1050, by decide⟩, ⟨1050, by decide⟩⟩
  let standard1 : Phase := ⟨.utc, .utc⟩
  let standard2 : Phase := ⟨⟨3600, by decide⟩, ⟨3600, by decide⟩⟩
  let summer1 : Phase := ⟨⟨3600, by decide⟩, ⟨7200, by decide⟩⟩
  let summer2 : Phase := ⟨.utc, ⟨3600, by decide⟩⟩
  ⟨"CET", localMean,
    [(-2840141850, localMean), (-2450995200, standard1), (-1740355200, standard2),
     (-1693702800, summer1), (-1680483600, standard2), (-1663455600, summer1),
     (-1650150000, standard2), (-1632006000, summer1), (-1618700400, standard2),
     (-1613826000, standard1), (-1604278800, summer2), (-1585530000, standard1),
     (-1574038800, summer2), (-1552266000, standard1), (-1539997200, summer2),
     (-1520557200, standard1), (-1507510800, summer2), (-1490576400, standard1),
     (-1473642000, summer2), (-1459126800, standard1), (-1444006800, summer2),
     (-1427677200, standard1), (-1411952400, summer2), (-1396227600, standard1),
     (-1379293200, summer2), (-1364778000, standard1), (-1348448400, summer2),
     (-1333328400, standard1), (-1316394000, summer2), (-1301263200, standard1),
     (-1284328800, summer2), (-1269813600, standard1), (-1253484000, summer2),
     (-1238364000, standard1), (-1221429600, summer2), (-1206914400, standard1),
     (-1191189600, summer2), (-1175464800, standard1), (-1160344800, summer2),
     (-1143410400, standard1), (-1127685600, summer2), (-1111960800, standard1),
     (-1096840800, summer2), (-1080511200, standard1), (-1063576800, summer2),
     (-1049061600, standard1), (-1033336800, summer2), (-1017612000, standard1),
     (-1002492000, summer2), (-986162400, standard1), (-969228000, summer2),
     (-950479200, standard1), (-942012000, summer2), (-934668000, summer1),
     (-857257200, standard2), (-844556400, summer1), (-828226800, standard2),
     (-812502000, summer1), (-798073200, standard2), (-781052400, summer1),
     (-766623600, standard2), (-745455600, summer1), (-733273200, standard2), (228877200, summer1),
     (243997200, standard2), (260326800, summer1), (276051600, standard2), (291776400, summer1),
     (307501200, standard2), (323830800, summer1), (338950800, standard2), (354675600, summer1),
     (370400400, standard2), (386125200, summer1), (401850000, standard2), (417574800, summer1),
     (433299600, standard2), (449024400, summer1), (465354000, standard2), (481078800, summer1),
     (496803600, standard2), (512528400, summer1), (528253200, standard2), (543978000, summer1),
     (559702800, standard2), (575427600, summer1), (591152400, standard2), (606877200, summer1),
     (622602000, standard2), (638326800, summer1), (654656400, standard2), (670381200, summer1),
     (686106000, standard2), (701830800, summer1), (717555600, standard2), (733280400, summer1),
     (749005200, standard2), (764730000, summer1), (780454800, standard2), (796179600, summer1),
     (811904400, standard2), (828234000, summer1), (846378000, standard2), (859683600, summer1),
     (877827600, standard2), (891133200, summer1), (909277200, standard2), (922582800, summer1),
     (941331600, standard2), (954032400, summer1), (972781200, standard2), (985482000, summer1),
     (1004230800, standard2), (1017536400, summer1), (1035680400, standard2),
     (1048986000, summer1), (1067130000, standard2), (1080435600, summer1),
     (1099184400, standard2), (1111885200, summer1), (1130634000, standard2),
     (1143334800, summer1), (1162083600, standard2), (1174784400, summer1),
     (1193533200, standard2), (1206838800, summer1), (1224982800, standard2),
     (1238288400, summer1), (1256432400, standard2), (1269738000, summer1),
     (1288486800, standard2), (1301187600, summer1), (1319936400, standard2),
     (1332637200, summer1), (1351386000, standard2), (1364691600, summer1),
     (1382835600, standard2), (1396141200, summer1), (1414285200, standard2),
     (1427590800, summer1), (1445734800, standard2), (1459040400, summer1),
     (1477789200, standard2), (1490490000, summer1), (1509238800, standard2),
     (1521939600, summer1), (1540688400, standard2), (1553994000, summer1),
     (1572138000, standard2), (1585443600, summer1), (1603587600, standard2),
     (1616893200, summer1), (1635642000, standard2), (1648342800, summer1),
     (1667091600, standard2), (1679792400, summer1), (1698541200, standard2),
     (1711846800, summer1), (1729990800, standard2), (1743296400, summer1),
     (1761440400, standard2), (1774746000, summer1), (1792890000, standard2),
     (1806195600, summer1), (1824944400, standard2), (1837645200, summer1),
     (1856394000, standard2), (1869094800, summer1), (1887843600, standard2),
     (1901149200, summer1), (1919293200, standard2), (1932598800, summer1),
     (1950742800, standard2), (1964048400, summer1), (1982797200, standard2),
     (1995498000, summer1), (2014246800, standard2), (2026947600, summer1),
     (2045696400, standard2), (2058397200, summer1), (2077146000, standard2),
     (2090451600, summer1), (2108595600, standard2), (2121901200, summer1),
     (2140045200, standard2), (2153350800, summer1), (2172099600, standard2),
     (2184800400, summer1), (2203549200, standard2), (2216250000, summer1),
     (2234998800, standard2), (2248304400, summer1), (2266448400, standard2),
     (2279754000, summer1), (2297898000, standard2), (2311203600, summer1),
     (2329347600, standard2), (2342653200, summer1), (2361402000, standard2),
     (2374102800, summer1), (2392851600, standard2), (2405552400, summer1),
     (2424301200, standard2), (2437606800, summer1), (2455750800, standard2),
     (2469056400, summer1), (2487200400, standard2), (2500506000, summer1),
     (2519254800, standard2), (2531955600, summer1), (2550704400, standard2),
     (2563405200, summer1), (2582154000, standard2), (2595459600, summer1),
     (2613603600, standard2), (2626909200, summer1), (2645053200, standard2),
     (2658358800, summer1), (2676502800, standard2), (2689808400, summer1),
     (2708557200, standard2), (2721258000, summer1), (2740006800, standard2),
     (2752707600, summer1), (2771456400, standard2), (2784762000, summer1),
     (2802906000, standard2), (2816211600, summer1), (2834355600, standard2),
     (2847661200, summer1), (2866410000, standard2), (2879110800, summer1),
     (2897859600, standard2), (2910560400, summer1), (2929309200, standard2),
     (2942010000, summer1), (2960758800, standard2), (2974064400, summer1),
     (2992208400, standard2), (3005514000, summer1), (3023658000, standard2),
     (3036963600, summer1), (3055712400, standard2), (3068413200, summer1),
     (3087162000, standard2), (3099862800, summer1), (3118611600, standard2),
     (3131917200, summer1), (3150061200, standard2), (3163366800, summer1),
     (3181510800, standard2), (3194816400, summer1), (3212960400, standard2),
     (3226266000, summer1), (3245014800, standard2), (3257715600, summer1),
     (3276464400, standard2), (3289165200, summer1), (3307914000, standard2),
     (3321219600, summer1), (3339363600, standard2), (3352669200, summer1),
     (3370813200, standard2), (3384118800, summer1), (3402867600, standard2),
     (3415568400, summer1), (3434317200, standard2), (3447018000, summer1),
     (3465766800, standard2), (3479072400, summer1), (3497216400, standard2),
     (3510522000, summer1), (3528666000, standard2), (3541971600, summer1),
     (3560115600, standard2), (3573421200, summer1), (3592170000, standard2),
     (3604870800, summer1), (3623619600, standard2), (3636320400, summer1),
     (3655069200, standard2), (3668374800, summer1), (3686518800, standard2),
     (3699824400, summer1), (3717968400, standard2), (3731274000, summer1),
     (3750022800, standard2), (3762723600, summer1), (3781472400, standard2),
     (3794173200, summer1), (3812922000, standard2), (3825622800, summer1),
     (3844371600, standard2), (3857677200, summer1), (3875821200, standard2),
     (3889126800, summer1), (3907270800, standard2), (3920576400, summer1),
     (3939325200, standard2), (3952026000, summer1), (3970774800, standard2),
     (3983475600, summer1), (4002224400, standard2), (4015530000, summer1),
     (4033674000, standard2), (4046979600, summer1), (4065123600, standard2),
     (4078429200, summer1), (4096573200, standard2)]⟩

end ScalarWire.Region
