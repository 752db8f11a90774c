import MaskedLog.Text.Cells
/-!
# Chinese character tables of the GB family

* `gb2312Table` — GB 2312, by row and column from 0x21 to 0x7E.
* `gbkTable` — the cells GBK adds around GB 2312, by lead and trail byte.
* `gb18030Table` — the two-byte cells GB 18030 adds to GBK.
* `gb18030Ranges` — the four-byte sequences of GB 18030 below U+10000: each
  pair gives the index of a sequence and the code point it stands for, and the
  sequences after it up to the next pair stand for the code points after it.

## References

The `gb2312`, `gbk` and `gb18030` codecs of Python.
-/

namespace MaskedLog.Text

/-- GB 2312. -/
def gb2312Table : Grid := Grid.ofRows 0x21 0x21 94 [
    "\u3000+2・ˉˇ¨〃々―～‖…‘’“”〔〕〈+7〖〗【】±×÷∶∧∨∑∏∪∩∈∷√⊥∥∠⌒⊙∫∮≡≌≈∽∝≠≮≯≤≥∞∵∴♂♀°′″℃＄¤￠￡‰§№☆★○●◎◇◆□■△▲※→←↑↓〓",
    "_16⒈+19⑴+19①+9_2㈠+9_2Ⅰ+11",
    "！+2￥％+88￣",
    "ぁ+82",
    "ァ+85",
    "Α+16Σ+6_8α+16σ+6",
    "А+5ЁЖ+25_15а+5ёж+25",
    "āáǎàēéěèīíǐìōóǒòūúǔùǖǘǚǜüê_10ㄅ+36",
    "_3─+75",
    "",
    "",
    "",
    "",
    "",
    "",
    "啊阿埃挨哎唉哀皑癌蔼矮艾碍爱隘鞍氨安俺按暗岸胺案肮昂盎凹敖熬翱袄傲奥懊澳芭捌扒叭吧笆八疤巴拔跋靶把耙坝霸罢爸白柏百摆佰败拜稗斑班搬扳般颁板版扮拌伴瓣半办绊邦帮梆榜膀绑棒磅蚌镑傍谤苞胞包褒剥",
    "薄雹保堡饱宝抱报暴豹鲍爆杯碑悲卑北辈背贝钡倍狈备惫焙被奔苯本笨崩绷甭泵蹦迸逼鼻比鄙笔彼碧蓖蔽毕毙毖币庇痹闭敝弊必辟壁臂避陛鞭边编贬扁便变卞辨辩辫遍标彪膘表鳖憋别瘪彬斌濒滨宾摈兵冰柄丙秉饼炳",
    "病并玻菠播拨钵波博勃搏铂箔伯帛舶脖膊渤泊驳捕卜哺补埠不布步簿部怖擦猜裁材才财睬踩采彩菜蔡餐参蚕残惭惨灿苍舱仓沧藏操糙槽曹草厕策侧册测层蹭插叉茬茶查碴搽察岔差诧拆柴豺搀掺蝉馋谗缠铲产阐颤昌猖",
    "场尝常长偿肠厂敞畅唱倡超抄钞朝嘲潮巢吵炒车扯撤掣彻澈郴臣辰尘晨忱沉陈趁衬撑称城橙成呈乘程惩澄诚承逞骋秤吃痴持匙池迟弛驰耻齿侈尺赤翅斥炽充冲虫崇宠抽酬畴踌稠愁筹仇绸瞅丑臭初出橱厨躇锄雏滁除楚",
    "础储矗搐触处揣川穿椽传船喘串疮窗幢床闯创吹炊捶锤垂春椿醇唇淳纯蠢戳绰疵茨磁雌辞慈瓷词此刺赐次聪葱囱匆从丛凑粗醋簇促蹿篡窜摧崔催脆瘁粹淬翠村存寸磋撮搓措挫错搭达答瘩打大呆歹傣戴带殆代贷袋待逮",
    "怠耽担丹单郸掸胆旦氮但惮淡诞弹蛋当挡党荡档刀捣蹈倒岛祷导到稻悼道盗德得的蹬灯登等瞪凳邓堤低滴迪敌笛狄涤翟嫡抵底地蒂第帝弟递缔颠掂滇碘点典靛垫电佃甸店惦奠淀殿碉叼雕凋刁掉吊钓调跌爹碟蝶迭谍叠",
    "丁盯叮钉顶鼎锭定订丢东冬董懂动栋侗恫冻洞兜抖斗陡豆逗痘都督毒犊独读堵睹赌杜镀肚度渡妒端短锻段断缎堆兑队对墩吨蹲敦顿囤钝盾遁掇哆多夺垛躲朵跺舵剁惰堕蛾峨鹅俄额讹娥恶厄扼遏鄂饿恩而儿耳尔饵洱二",
    "贰发罚筏伐乏阀法珐藩帆番翻樊矾钒繁凡烦反返范贩犯饭泛坊芳方肪房防妨仿访纺放菲非啡飞肥匪诽吠肺废沸费芬酚吩氛分纷坟焚汾粉奋份忿愤粪丰封枫蜂峰锋风疯烽逢冯缝讽奉凤佛否夫敷肤孵扶拂辐幅氟符伏俘服",
    "浮涪福袱弗甫抚辅俯釜斧脯腑府腐赴副覆赋复傅付阜父腹负富讣附妇缚咐噶嘎该改概钙盖溉干甘杆柑竿肝赶感秆敢赣冈刚钢缸肛纲岗港杠篙皋高膏羔糕搞镐稿告哥歌搁戈鸽胳疙割革葛格蛤阁隔铬个各给根跟耕更庚羹",
    "埂耿梗工攻功恭龚供躬公宫弓巩汞拱贡共钩勾沟苟狗垢构购够辜菇咕箍估沽孤姑鼓古蛊骨谷股故顾固雇刮瓜剐寡挂褂乖拐怪棺关官冠观管馆罐惯灌贯光广逛瑰规圭硅归龟闺轨鬼诡癸桂柜跪贵刽辊滚棍锅郭国果裹过哈",
    "骸孩海氦亥害骇酣憨邯韩含涵寒函喊罕翰撼捍旱憾悍焊汗汉夯杭航壕嚎豪毫郝好耗号浩呵喝荷菏核禾和何合盒貉阂河涸赫褐鹤贺嘿黑痕很狠恨哼亨横衡恒轰哄烘虹鸿洪宏弘红喉侯猴吼厚候后呼乎忽瑚壶葫胡蝴狐糊湖",
    "弧虎唬护互沪户花哗华猾滑画划化话槐徊怀淮坏欢环桓还缓换患唤痪豢焕涣宦幻荒慌黄磺蝗簧皇凰惶煌晃幌恍谎灰挥辉徽恢蛔回毁悔慧卉惠晦贿秽会烩汇讳诲绘荤昏婚魂浑混豁活伙火获或惑霍货祸击圾基机畸稽积箕",
    "肌饥迹激讥鸡姬绩缉吉极棘辑籍集及急疾汲即嫉级挤几脊己蓟技冀季伎祭剂悸济寄寂计记既忌际妓继纪嘉枷夹佳家加荚颊贾甲钾假稼价架驾嫁歼监坚尖笺间煎兼肩艰奸缄茧检柬碱硷拣捡简俭剪减荐槛鉴践贱见键箭件",
    "健舰剑饯渐溅涧建僵姜将浆江疆蒋桨奖讲匠酱降蕉椒礁焦胶交郊浇骄娇嚼搅铰矫侥脚狡角饺缴绞剿教酵轿较叫窖揭接皆秸街阶截劫节桔杰捷睫竭洁结解姐戒藉芥界借介疥诫届巾筋斤金今津襟紧锦仅谨进靳晋禁近烬浸",
    "尽劲荆兢茎睛晶鲸京惊精粳经井警景颈静境敬镜径痉靖竟竞净炯窘揪究纠玖韭久灸九酒厩救旧臼舅咎就疚鞠拘狙疽居驹菊局咀矩举沮聚拒据巨具距踞锯俱句惧炬剧捐鹃娟倦眷卷绢撅攫抉掘倔爵觉决诀绝均菌钧军君峻",
    "俊竣浚郡骏喀咖卡咯开揩楷凯慨刊堪勘坎砍看康慷糠扛抗亢炕考拷烤靠坷苛柯棵磕颗科壳咳可渴克刻客课肯啃垦恳坑吭空恐孔控抠口扣寇枯哭窟苦酷库裤夸垮挎跨胯块筷侩快宽款匡筐狂框矿眶旷况亏盔岿窥葵奎魁傀",
    "馈愧溃坤昆捆困括扩廓阔垃拉喇蜡腊辣啦莱来赖蓝婪栏拦篮阑兰澜谰揽览懒缆烂滥琅榔狼廊郎朗浪捞劳牢老佬姥酪烙涝勒乐雷镭蕾磊累儡垒擂肋类泪棱楞冷厘梨犁黎篱狸离漓理李里鲤礼莉荔吏栗丽厉励砾历利傈例俐",
    "痢立粒沥隶力璃哩俩联莲连镰廉怜涟帘敛脸链恋炼练粮凉梁粱良两辆量晾亮谅撩聊僚疗燎寥辽潦了撂镣廖料列裂烈劣猎琳林磷霖临邻鳞淋凛赁吝拎玲菱零龄铃伶羚凌灵陵岭领另令溜琉榴硫馏留刘瘤流柳六龙聋咙笼窿",
    "隆垄拢陇楼娄搂篓漏陋芦卢颅庐炉掳卤虏鲁麓碌露路赂鹿潞禄录陆戮驴吕铝侣旅履屡缕虑氯律率滤绿峦挛孪滦卵乱掠略抡轮伦仑沦纶论萝螺罗逻锣箩骡裸落洛骆络妈麻玛码蚂马骂嘛吗埋买麦卖迈脉瞒馒蛮满蔓曼慢漫",
    "谩芒茫盲氓忙莽猫茅锚毛矛铆卯茂冒帽貌贸么玫枚梅酶霉煤没眉媒镁每美昧寐妹媚门闷们萌蒙檬盟锰猛梦孟眯醚靡糜迷谜弥米秘觅泌蜜密幂棉眠绵冕免勉娩缅面苗描瞄藐秒渺庙妙蔑灭民抿皿敏悯闽明螟鸣铭名命谬摸",
    "摹蘑模膜磨摩魔抹末莫墨默沫漠寞陌谋牟某拇牡亩姆母墓暮幕募慕木目睦牧穆拿哪呐钠那娜纳氖乃奶耐奈南男难囊挠脑恼闹淖呢馁内嫩能妮霓倪泥尼拟你匿腻逆溺蔫拈年碾撵捻念娘酿鸟尿捏聂孽啮镊镍涅您柠狞凝宁",
    "拧泞牛扭钮纽脓浓农弄奴努怒女暖虐疟挪懦糯诺哦欧鸥殴藕呕偶沤啪趴爬帕怕琶拍排牌徘湃派攀潘盘磐盼畔判叛乓庞旁耪胖抛咆刨炮袍跑泡呸胚培裴赔陪配佩沛喷盆砰抨烹澎彭蓬棚硼篷膨朋鹏捧碰坯砒霹批披劈琵毗",
    "啤脾疲皮匹痞僻屁譬篇偏片骗飘漂瓢票撇瞥拼频贫品聘乒坪苹萍平凭瓶评屏坡泼颇婆破魄迫粕剖扑铺仆莆葡菩蒲埔朴圃普浦谱曝瀑期欺栖戚妻七凄漆柒沏其棋奇歧畦崎脐齐旗祈祁骑起岂乞企启契砌器气迄弃汽泣讫掐",
    "恰洽牵扦钎铅千迁签仟谦乾黔钱钳前潜遣浅谴堑嵌欠歉枪呛腔羌墙蔷强抢橇锹敲悄桥瞧乔侨巧鞘撬翘峭俏窍切茄且怯窃钦侵亲秦琴勤芹擒禽寝沁青轻氢倾卿清擎晴氰情顷请庆琼穷秋丘邱球求囚酋泅趋区蛆曲躯屈驱渠",
    "取娶龋趣去圈颧权醛泉全痊拳犬券劝缺炔瘸却鹊榷确雀裙群然燃冉染瓤壤攘嚷让饶扰绕惹热壬仁人忍韧任认刃妊纫扔仍日戎茸蓉荣融熔溶容绒冗揉柔肉茹蠕儒孺如辱乳汝入褥软阮蕊瑞锐闰润若弱撒洒萨腮鳃塞赛三叁",
    "伞散桑嗓丧搔骚扫嫂瑟色涩森僧莎砂杀刹沙纱傻啥煞筛晒珊苫杉山删煽衫闪陕擅赡膳善汕扇缮墒伤商赏晌上尚裳梢捎稍烧芍勺韶少哨邵绍奢赊蛇舌舍赦摄射慑涉社设砷申呻伸身深娠绅神沈审婶甚肾慎渗声生甥牲升绳",
    "省盛剩胜圣师失狮施湿诗尸虱十石拾时什食蚀实识史矢使屎驶始式示士世柿事拭誓逝势是嗜噬适仕侍释饰氏市恃室视试收手首守寿授售受瘦兽蔬枢梳殊抒输叔舒淑疏书赎孰熟薯暑曙署蜀黍鼠属术述树束戍竖墅庶数漱",
    "恕刷耍摔衰甩帅栓拴霜双爽谁水睡税吮瞬顺舜说硕朔烁斯撕嘶思私司丝死肆寺嗣四伺似饲巳松耸怂颂送宋讼诵搜艘擞嗽苏酥俗素速粟僳塑溯宿诉肃酸蒜算虽隋随绥髓碎岁穗遂隧祟孙损笋蓑梭唆缩琐索锁所塌他它她塔",
    "獭挞蹋踏胎苔抬台泰酞太态汰坍摊贪瘫滩坛檀痰潭谭谈坦毯袒碳探叹炭汤塘搪堂棠膛唐糖倘躺淌趟烫掏涛滔绦萄桃逃淘陶讨套特藤腾疼誊梯剔踢锑提题蹄啼体替嚏惕涕剃屉天添填田甜恬舔腆挑条迢眺跳贴铁帖厅听烃",
    "汀廷停亭庭挺艇通桐酮瞳同铜彤童桶捅筒统痛偷投头透凸秃突图徒途涂屠土吐兔湍团推颓腿蜕褪退吞屯臀拖托脱鸵陀驮驼椭妥拓唾挖哇蛙洼娃瓦袜歪外豌弯湾玩顽丸烷完碗挽晚皖惋宛婉万腕汪王亡枉网往旺望忘妄威",
    "巍微危韦违桅围唯惟为潍维苇萎委伟伪尾纬未蔚味畏胃喂魏位渭谓尉慰卫瘟温蚊文闻纹吻稳紊问嗡翁瓮挝蜗涡窝我斡卧握沃巫呜钨乌污诬屋无芜梧吾吴毋武五捂午舞伍侮坞戊雾晤物勿务悟误昔熙析西硒矽晰嘻吸锡牺",
    "稀息希悉膝夕惜熄烯溪汐犀檄袭席习媳喜铣洗系隙戏细瞎虾匣霞辖暇峡侠狭下厦夏吓掀锨先仙鲜纤咸贤衔舷闲涎弦嫌显险现献县腺馅羡宪陷限线相厢镶香箱襄湘乡翔祥详想响享项巷橡像向象萧硝霄削哮嚣销消宵淆晓",
    "小孝校肖啸笑效楔些歇蝎鞋协挟携邪斜胁谐写械卸蟹懈泄泻谢屑薪芯锌欣辛新忻心信衅星腥猩惺兴刑型形邢行醒幸杏性姓兄凶胸匈汹雄熊休修羞朽嗅锈秀袖绣墟戌需虚嘘须徐许蓄酗叙旭序畜恤絮婿绪续轩喧宣悬旋玄",
    "选癣眩绚靴薛学穴雪血勋熏循旬询寻驯巡殉汛训讯逊迅压押鸦鸭呀丫芽牙蚜崖衙涯雅哑亚讶焉咽阉烟淹盐严研蜒岩延言颜阎炎沿奄掩眼衍演艳堰燕厌砚雁唁彦焰宴谚验殃央鸯秧杨扬佯疡羊洋阳氧仰痒养样漾邀腰妖瑶",
    "摇尧遥窑谣姚咬舀药要耀椰噎耶爷野冶也页掖业叶曳腋夜液一壹医揖铱依伊衣颐夷遗移仪胰疑沂宜姨彝椅蚁倚已乙矣以艺抑易邑屹亿役臆逸肄疫亦裔意毅忆义益溢诣议谊译异翼翌绎茵荫因殷音阴姻吟银淫寅饮尹引隐",
    "印英樱婴鹰应缨莹萤营荧蝇迎赢盈影颖硬映哟拥佣臃痈庸雍踊蛹咏泳涌永恿勇用幽优悠忧尤由邮铀犹油游酉有友右佑釉诱又幼迂淤于盂榆虞愚舆余俞逾鱼愉渝渔隅予娱雨与屿禹宇语羽玉域芋郁吁遇喻峪御愈欲狱育誉",
    "浴寓裕预豫驭鸳渊冤元垣袁原援辕园员圆猿源缘远苑愿怨院曰约越跃钥岳粤月悦阅耘云郧匀陨允运蕴酝晕韵孕匝砸杂栽哉灾宰载再在咱攒暂赞赃脏葬遭糟凿藻枣早澡蚤躁噪造皂灶燥责择则泽贼怎增憎曾赠扎喳渣札轧",
    "铡闸眨栅榨咋乍炸诈摘斋宅窄债寨瞻毡詹粘沾盏斩辗崭展蘸栈占战站湛绽樟章彰漳张掌涨杖丈帐账仗胀瘴障招昭找沼赵照罩兆肇召遮折哲蛰辙者锗蔗这浙珍斟真甄砧臻贞针侦枕疹诊震振镇阵蒸挣睁征狰争怔整拯正政",
    "帧症郑证芝枝支吱蜘知肢脂汁之织职直植殖执值侄址指止趾只旨纸志挚掷至致置帜峙制智秩稚质炙痔滞治窒中盅忠钟衷终种肿重仲众舟周州洲诌粥轴肘帚咒皱宙昼骤珠株蛛朱猪诸诛逐竹烛煮拄瞩嘱主著柱助蛀贮铸筑",
    "住注祝驻抓爪拽专砖转撰赚篆桩庄装妆撞壮状椎锥追赘坠缀谆准捉拙卓桌琢茁酌啄着灼浊兹咨资姿滋淄孜紫仔籽滓子自渍字鬃棕踪宗综总纵邹走奏揍租足卒族祖诅阻组钻纂嘴醉最罪尊遵昨左佐柞做作坐座",
    "亍丌兀丐廿卅丕亘丞鬲孬噩丨禺丿匕乇夭爻卮氐囟胤馗毓睾鼗丶亟鼐乜乩亓芈孛啬嘏仄厍厝厣厥厮靥赝匚叵匦匮匾赜卦卣刂刈刎刭刳刿剀剌剞剡剜蒯剽劂劁劐劓冂罔亻仃仉仂仨仡仫仞伛仳伢佤仵伥伧伉伫佞佧攸佚佝",
    "佟佗伲伽佶佴侑侉侃侏佾佻侪佼侬侔俦俨俪俅俚俣俜俑俟俸倩偌俳倬倏倮倭俾倜倌倥倨偾偃偕偈偎偬偻傥傧傩傺僖儆僭僬僦僮儇儋仝氽佘佥俎龠汆籴兮巽黉馘冁夔勹匍訇匐凫夙兕亠兖亳衮袤亵脔裒禀嬴蠃羸冫冱冽冼",
    "凇冖冢冥讠讦讧讪讴讵讷诂诃诋诏诎诒+2诖诘诙诜诟诠诤诨诩诮诰诳诶诹诼诿谀谂谄谇谌谏谑谒谔+2谙谛谘谝谟+2谥谧谪谫谮谯谲谳谵谶卩卺阝阢阡阱阪阽阼陂陉陔陟陧陬陲陴隈隍隗隰邗邛邝邙邬邡邴邳邶邺",
    "邸邰郏郅邾郐郄郇郓郦郢郜郗郛郫郯郾鄄鄢鄞鄣鄱鄯鄹酃酆刍奂劢劬劭劾哿勐勖勰叟燮矍廴凵凼鬯厶弁畚巯坌垩垡塾墼壅壑圩圬圪圳圹圮圯坜圻坂坩垅坫垆坼坻坨坭坶坳垭垤垌垲埏垧垴垓垠埕埘埚埙埒垸埴埯埸埤埝",
    "堋堍埽埭堀堞堙塄堠塥塬墁墉墚墀馨鼙懿艹艽艿芏芊芨芄芎芑芗芙芫芸芾芰苈苊苣芘芷芮苋苌苁芩芴芡芪芟苄苎芤苡茉苷苤茏茇苜苴苒苘茌苻苓茑茚茆茔茕苠苕茜荑荛荜茈莒茼茴茱莛荞茯荏荇荃荟荀茗荠茭茺茳荦荥",
    "荨茛荩荬荪荭荮莰荸莳莴莠莪莓莜莅荼莶莩荽莸荻莘莞莨莺莼菁萁菥菘堇萘萋菝菽菖萜萸萑萆菔菟萏萃菸菹菪菅菀萦菰菡葜葑葚葙葳蒇蒈葺蒉葸萼葆葩葶蒌蒎萱葭蓁蓍蓐蓦蒽蓓蓊蒿蒺蓠蒡蒹蒴蒗蓥蓣蔌甍蔸蓰蔹蔟蔺",
    "蕖蔻蓿蓼蕙蕈蕨蕤蕞蕺瞢蕃蕲蕻薤薨薇薏蕹薮薜薅薹薷薰藓藁藜藿蘧蘅蘩蘖蘼廾弈夼奁耷奕奚奘匏尢尥尬尴扌扪抟抻拊拚拗拮挢拶挹捋捃掭揶捱捺掎掴捭掬掊捩掮掼揲揸揠揿揄揞揎摒揆掾摅摁搋搛搠搌搦搡摞撄摭撖",
    "摺撷撸撙撺擀擐擗擤擢攉攥攮弋忒甙弑卟叱叽叩叨叻吒吖吆呋呒+2呖呃吡呗呙吣吲咂咔呷呱呤咚咛咄呶呦咝哐咭哂咴哒咧咦哓哔呲咣哕咻咿哌哙哚哜咩咪咤哝哏哞唛哧唠哽唔哳唢唣唏唑唧唪啧喏喵啉啭啁啕唿啐唼",
    "唷啖啵+2唳唰啜喋嗒喃喱喹喈喁喟啾嗖喑啻嗟喽喾喔喙嗪嗷嗉嘟嗑嗫嗬嗔嗦嗝嗄嗯嗥嗲嗳嗌嗍嗨嗵嗤辔嘞嘈嘌嘁嘤嘣嗾嘀嘧嘭噘嘹噗嘬噍噢噙噜噌噔嚆噤噱噫噻噼嚅嚓嚯囔囗囝囡囵囫囹囿圄圊圉圜帏帙帔帑帱帻帼",
    "帷幄幔幛幞幡岌屺岍岐岖岈岘岙岑岚岜岵岢岽岬岫岱岣峁岷峄峒峤峋峥崂崃崧崦崮崤崞崆崛嵘崾崴崽嵬嵛嵯嵝嵫嵋嵊嵩嵴嶂嶙嶝豳嶷巅彳彷徂徇徉後徕徙徜徨徭徵徼衢彡犭犰犴犷犸狃狁狎狍狒狨狯狩狲狴狷猁狳猃狺",
    "狻猗猓猡猊猞猝猕猢猹猥猬猸猱獐獍獗獠獬獯獾舛夥飧夤夂饣饧+5饴饷饽馀馄馇馊馍馐馑馓+2庀庑庋庖庥庠庹庵庾庳赓廒廑廛廨廪膺忄忉忖忏怃忮怄忡忤忾怅怆忪忭忸怙怵怦怛怏怍怩怫怊怿怡恸恹恻恺恂",
    "恪恽悖悚悭悝悃悒悌悛惬悻悱惝惘惆惚悴愠愦愕愣惴愀愎愫慊慵憬憔憧憷懔懵忝隳闩闫闱闳闵闶闼闾阃阄阆阈阊+3阏阒阕+2阙阚丬爿戕氵汔汜汊沣沅沐沔沌汨汩汴汶沆沩泐泔沭泷泸泱泗沲泠泖泺泫泮沱泓泯泾",
    "洹洧洌浃浈洇洄洙洎洫浍洮洵洚浏浒浔洳涑浯涞涠浞涓涔浜浠浼浣渚淇淅淞渎涿淠渑淦淝淙渖涫渌涮渫湮湎湫溲湟溆湓湔渲渥湄滟溱溘滠漭滢溥溧溽溻溷滗溴滏溏滂溟潢潆潇漤漕滹漯漶潋潴漪漉漩澉澍澌潸潲潼潺濑",
    "濉澧澹澶濂濡濮濞濠濯瀚瀣瀛瀹瀵灏灞宀宄宕宓宥宸甯骞搴寤寮褰寰蹇謇辶迓迕迥迮迤迩迦迳迨逅逄逋逦逑逍逖逡逵逶逭逯遄遑遒遐遨遘遢遛暹遴遽邂邈邃邋彐彗彖彘尻咫屐屙孱屣屦羼弪弩弭艴弼鬻屮妁妃妍妩妪妣",
    "妗姊妫妞妤姒妲妯姗妾娅娆姝娈姣姘姹娌娉娲娴娑娣娓婀婧婊婕娼婢婵胬媪媛婷婺媾嫫媲嫒嫔媸嫠嫣嫱嫖嫦嫘嫜嬉嬗嬖嬲嬷孀尕尜孚孥孳孑孓孢驵驷驸驺驿驽骀骁骅骈骊骐骒骓骖骘骛+2骟骠骢骣骥骧纟纡纣纥纨纩",
    "纭纰纾绀+2绉绋绌绐绔绗绛绠绡绨绫绮绯绱绲缍绶绺绻绾缁+2缇缈缋缌缏缑缒缗缙缜缛缟缡+6缪+3缯+4缵幺畿巛甾邕玎玑玮玢玟珏珂珑玷玳珀珉珈珥珙顼琊珩珧珞玺珲琏琪瑛琦琥琨琰琮琬",
    "琛琚瑁瑜瑗瑕瑙瑷瑭瑾璜璎璀璁璇璋璞璨璩璐璧瓒璺韪+2杌杓杞杈杩枥枇杪杳枘枧杵枨枞枭枋杷杼柰栉柘栊柩枰栌柙枵柚枳柝栀柃枸柢栎柁柽栲栳桠桡桎桢桄桤梃栝桕桦桁桧桀栾桊桉栩梵梏桴桷梓桫棂楮棼椟椠棹",
    "椤棰椋椁楗棣椐楱椹楠楂楝榄楫榀榘楸椴槌榇榈槎榉楦楣楹榛榧榻榫榭槔榱槁槊槟榕槠榍槿樯槭樗樘橥槲橄樾檠橐橛樵檎橹樽樨橘橼檑檐檩檗檫猷獒殁殂殇殄殒殓殍殚殛殡殪轫轭轱+2轵轶轸轷轹轺轼轾辁辂辄辇辋",
    "辍+2辘辚軎戋戗戛戟戢戡戥戤戬臧瓯瓴瓿甏甑甓攴旮+2昊昙杲昃昕昀炅曷昝昴昱昶昵耆晟晔晁晏晖晡晗晷暄暌暧暝暾曛曜曦曩贲贳贶贻贽赀赅赆赈赉赇赍赕赙觇觊+2觎+3牮犟牝牦牯牾牿犄犋犍犏犒挈挲掰",
    "搿擘耄毪毳毽毵毹氅氇氆氍氕氘+2氡氩氤氪氲攵敕敫牍牒牖爰虢刖肟肜肓肼朊肽肱肫肭肴肷胧+3胛胂胄胙胍胗朐胝胫胱胴胭脍脎胲胼朕脒豚脶脞脬脘脲腈腌腓腴腙腚腱腠腩腼腽腭腧塍媵膈膂膑滕膣膪臌朦臊膻",
    "臁膦欤欷欹歃歆歙飑+2飕飙飚殳彀毂觳斐齑斓於旆旄旃旌旎旒旖炀炜炖炝炻烀炷炫炱烨烊焐焓焖焯焱煳煜煨煅煲煊煸煺熘熳熵熨熠燠燔燧燹爝爨灬焘煦熹戾戽扃扈扉礻祀祆祉祛祜祓祚祢祗祠祯祧祺禅禊禚禧禳忑忐",
    "怼恝恚恧恁恙恣悫愆愍慝憩憝懋懑戆肀聿沓泶淼矶矸砀砉砗砘砑斫砭砜砝砹+2砟砼砥砬砣砩硎硭硖硗砦硐硇硌硪碛碓碚碇碜碡碣碲碹碥磔磙磉磬磲礅磴礓礤礞礴龛黹黻黼盱眄眍盹眇眈眚眢眙眭眦眵眸睐睑睇睃睚睨",
    "睢睥睿瞍睽瞀瞌瞑瞟瞠瞰瞵瞽町畀畎畋畈畛畲畹疃罘罡罟詈罨罴罱罹羁罾盍盥蠲钅+2钋钊钌钍钏钐钔钗钕钚+2钣钤钫钪钭钬钯钰钲钴钶+4钼钽钿铄铈+6铐+2铕+2铙铘铛铞+2铢铤铥铧铨铪",
    "铩铫铮铯铳+2铷铹铼铽铿锃锂锆锇锉锊锍+2锒+4锘锛锝+2锢锪锫锩锬锱锲锴锶+2锼锾锿镂锵镄+2镉镌镎镏镒+2镖+3镛镞镟镝镡镢镤+8镯镱+2锺矧矬雉秕秭秣秫稆嵇稃稂稞稔",
    "稹稷穑黏馥穰皈皎皓皙皤瓞瓠甬鸠鸢鸨+4鸲鸱鸶鸸鸷鸹鸺鸾鹁鹂鹄鹆+3鹋鹌鹎鹑鹕鹗鹚+2鹞鹣鹦+6鹱鹭鹳疒疔疖疠疝疬疣疳疴疸痄疱疰痃痂痖痍痣痨痦痤痫痧瘃痱痼痿瘐瘀瘅瘌瘗瘊瘥瘘瘕瘙",
    "瘛瘼瘢瘠癀瘭瘰瘿瘵癃瘾瘳癍癞癔癜癖癫癯翊竦穸穹窀窆窈窕窦窠窬窨窭窳衤衩衲衽衿袂袢裆袷袼裉裢裎裣裥裱褚裼裨裾裰褡褙褓褛褊褴褫褶襁襦襻疋胥皲皴矜耒耔耖耜耠耢耥+2耩耨耱耋耵聃聆聍聒聩聱覃顸颀颃",
    "颉颌颍颏颔颚颛颞颟颡颢颥颦虍虔虬虮虿虺虼虻蚨蚍蚋蚬蚝蚧蚣蚪蚓蚩蚶蛄蚵蛎蚰蚺蚱蚯蛉蛏蚴蛩蛱蛲蛭蛳蛐蜓蛞蛴蛟蛘蛑蜃蜇蛸蜈蜊蜍蜉蜣蜻蜞蜥蜮蜚蜾蝈蜴蜱蜩蜷蜿螂蜢蝽蝾蝻蝠蝰蝌蝮螋蝓蝣蝼蝤蝙蝥螓螯螨蟒",
    "蟆螈螅螭螗螃螫蟥螬螵螳蟋蟓螽蟑蟀蟊蟛蟪蟠蟮蠖蠓蟾蠊蠛蠡蠹蠼缶罂罄罅舐竺竽笈笃笄笕笊笫笏筇笸笪笙笮笱笠笥笤笳笾笞筘筚筅筵筌筝筠筮筻筢筲筱箐箦箧箸箬箝箨箅箪箜箢箫箴篑篁篌篝篚篥篦篪簌篾篼簏簖簋",
    "簟簪簦簸籁籀臾舁舂舄臬衄舡+2舭舯舨舫舸舻舳舴舾艄艉艋艏艚艟艨衾袅袈裘裟襞羝羟羧羯羰羲籼敉粑粝粜粞粢粲粼粽糁糇糌糍糈糅糗糨艮暨羿翎翕翥翡翦翩翮翳糸絷綦綮繇纛麸麴赳趄趔趑趱赧赭豇豉酊酐酎酏酤",
    "酢酡酰酩酯酽酾酲酴酹醌醅醐醍醑醢醣醪醭+2醵醴醺豕鹾趸跫踅蹙蹩趵趿趼趺跄跖跗跚跞跎跏跛跆跬跷跸跣跹跻跤踉跽踔踝踟踬踮踣踯踺蹀踹踵踽踱蹉蹁蹂蹑蹒蹊蹰蹶蹼蹯蹴躅躏躔躐躜躞豸貂貊貅貘貔斛觖觞觚觜",
    "觥觫觯訾謦靓雩雳雯霆霁霈霏霎霪霭霰霾龀龃龅+5龌黾鼋鼍隹隼隽雎雒瞿雠銎銮鋈錾鍪鏊鎏鐾鑫鱿鲂鲅+3稣鲋鲎鲐+2鲔鲕鲚鲛鲞+5鲥+4鲫鲭鲮鲰+7鲺+3鳄+3鳊鳋",
    "鳌+4鳓+2鳗+2鳜鳝鳟鳢靼鞅鞑鞒鞔鞯鞫鞣鞲鞴骱骰骷鹘骶骺骼髁髀髅髂髋髌髑魅魃魇魉魈魍魑飨餍餮饕饔髟髡髦髯髫髻髭髹鬈鬏鬓鬟鬣麽麾縻麂麇麈麋麒鏖麝麟黛+2黠黟黢黩黧黥黪黯鼢鼬鼯鼹鼷鼽鼾齄"]

/-- The cells of GBK outside GB 2312. -/
def gbkTable : Grid := Grid.ofRows 0x81 0x40 191 [
    "丂丄+2丏丒丗丟+2丣並丩丮丯丱丳丵丷丼乀+2乄乆乊乑乕乗乚乛乢+3乧乨乪+5乲乴+9乿+6亇亊_1亐亖亗亙亜+2亣亪亯+2亴亶+3亼+2仈仌仏仐仒仚+2仠仢仦仧仩仭+2仱仴仸+2仼仾伀伂+6伋伌伒+4伜伝伡伣伨伩伬+2伱伳伵伷伹伻伾+4佄佅佇+5佒佔佖佡佢佦佨佪佫佭佮佱佲併佷+3佽侀+2侅+2侊侌侎侐侒侓侕侖侘+2侜侞侟価侢",
    "侤侫侭侰+4侶+8俀+2俆+3俋+2俒+4俙俛俠俢俤俥俧俫俬俰俲俴+3俹俻+2俿+11_1個倎倐們倓倕+2倛倝倞倠倢+2倧倫倯+10倻倽倿+3偄+2偉+2偍偐+4偖+3偛偝+7偦+5偭+8偸+2偼偽傁+3傆傇傉+3傎+20傤傦傪傫傭+4傳+6傼",
    "傽+17僐+5僗+2僛+10僨+3僯+3僴僶+4僼+9儈_1儉儊儌+5儓+13儢+28兂兇兊兌兎+2兒兓兗+2兛兝+4兣兤兦內兩兪兯兲兺兾兿冃冄円冇冊冋冎+3冓冔冘冚冝+2冡冣冦+4冭冮冴冸+2冾冿凁+2凅凈凊凍凎凐凒+5",
    "凘+2凜凞凟凢凣凥+5凬凮凱凲凴凷凾刄刅刉刋刌刏刐刓+2刜刞刟刡+2別+2刪刬刯刱刲刴刵刼刾剄+5剋剎剏剒剓剕剗剘_1剙+2剝剟剠剢+2剦剨剫+3剰剱剳+9剾劀劃+4劉+6劑劒劔+6劜劤+3劮+2労+9勀+2勄+2勈勊勌+3勑勓+2勗務+5勠+3勥+10勱+7勻+2匁+3匇匉+3匎",
    "匑+3匘匛匜匞匟匢匤匥匧+2匫+2匯+9匼匽區卂卄卆卋+2卐協単卙卛卝卥卨卪卬卭卲卶卹卻+3厀厁厃厇厈厊厎厏_1厐+4厖厗厙厛厜厞厠厡厤厧厪+3厯+6厷+3厼+2叀參+4収+2叒叓叕叚叜+2叡叢叧叴叺叾+2吂吅吇吋吔吘+2吜吢吤吥吪吰吳吶吷吺吽吿呁呂呄呅呇呉呌+3呑呚呝+4呣呥呧呩+7呴呹呺呾呿咁咃咅咇+3咍咑咓咗咘咜咞+3",
    "咢咥咮咰咲咵+2咹咺咼咾哃哅哊哋哖哘哛哠+4哫哬哯+2哴+5哻哾唀唂+3唈唊+4唒唓唕+5唜+3唡唥唦_1唨唩唫唭唲唴+2唸+3唽啀啂啅啇啈啋+4啑+3啗+4啝+3啢啣啨啩啫啯+5啹啺啽啿喅喆喌+2喐喒喓喕+2喚喛喞喠+6喨+8喲喴営喸喺喼喿+4嗆+2嗊嗋嗎+2嗕嗗+4嗞嗠嗢嗧嗩嗭嗮嗰嗱嗴嗶嗸+4嗿嘂+3",
    "嘆嘇嘊嘋嘍嘐+7嘙嘚嘜嘝嘠+2嘥嘦嘨+3嘮+2嘳嘵嘷嘸嘺嘼+2噀+11噏+4噕噖噚噛噝+4_1噣噥+2噭+3噲+3噷+3噽+7嚇+6嚐+2嚔+14嚤+10嚰+6嚸+3嚽+12囋+8囕囖囘囙囜団囥+5囬囮囯囲図囶+2囻囼圀+2圅圇國+6",
    "園+9圝圞圠+2圤+3圫圱圲圴+4圼圽圿坁坃+3坈坉坋坒+4坘坙坢坣坥坧坬坮坰+2坴坵坸+2坽+3_1垁垇+3垍+4垔+6垜+3垥垨垪垬垯+2垳垵+2垹+8埄+6埌埍埐埑埓埖埗埛埜埞埡+2埥+7埮埰+3埵+2埻埼埾埿堁堃+2堈+2堌堎+2堒+2堖+2堚+3堟堢堣堥+4堫+4報+3堶+7",
    "堾+5塅+6塎+2塒塓塕+2塙+4塟+5塦+4塭+16塿墂墄墆+2墊+2_1墍+4墔+4墛+2墠+7墪+17墽+3壂+2壆+10壒+2壖+13壥+5壭壯壱売壴壵壷壸壺+7夃夅夆夈+4夎夐+3夗夘夛夝夞夠+3夦夨夬夰夲夳夵夶夻",
    "夽+3奃奅奆奊奌奍奐奒奓奙奛+4奡奣奤奦+12奵奷奺+2奾+2妅妉妋妌妎+3妔妕妘妚+3妟+3妦_1妧妬妭妰妱妳+5妺妼妽妿+6姇+2姌+3姕姖姙姛姞+4姤姦姧姩+2姭+11姺姼+2娀娂娊娋娍+3娒娔+3娙+2娝娞娡娢娤娦+2娪+6娳娵娷+4娽+2婁+4婇婈婋+9婖+3婛+5",
    "婡婣+3婨婩婫+8婸婹婻+3媀+17媓+6媜+13媫媬_1媭+4媴媶媷媹+4媿嫀嫃+5嫊嫋嫍+4嫓嫕嫗嫙+2嫝+2嫢嫤嫥嫧嫨嫪嫬+4嫲+22嬊+11嬘+25嬳嬵嬶嬸+7孁+6",
    "孈+7孒孖孞孠孡孧孨孫孭+2孲孴孶+3孻孼孾孿宂宆宊宍宎宐+2宔宖実宧+2宬+3宱宲宷宺+2寀寁寃寈+3寍+2_1寑寔+8寠寢寣實寧審+4寯寱+6寽対尀専尃尅將專尋+3尐尒尓尗尙尛尞+3尣尦尨+3尭+3尲尳尵+2屃屄屆屇屌屍屒+2屖+2屚+3屟屢層屧+6屰屲+6屻+3岀岃+4岉+2岎岏岒岓岕岝+4岤+4",
    "岪岮+2岲岴岶岹+3岾峀峂峃峅+5峌+5峓+5峚+6峢峣峧峩峫峬峮峯峱+9峼+4_1崁崄崅崈+5崏+4崕崗+3崜崝崟+4崥崨崪+2崯+4崵+7崿+7嵈嵉嵍+10嵙嵚嵜嵞+10嵪嵭嵮嵰+3嵵+12嶃+21嶚+2嶞+2",
    "嶡+21嶸+12巆+6巎+12巜巟巠巣巤巪巬巭_1巰巵巶巸+4巿帀帄帇帉+2帍帎帒帓帗帞+7帨+4帯帰帲+4帹帺帾+3幃幆+5幍+6幖+4幜幝幟幠幣+14幵幷幹幾庁+2庅庈庉庌+2庒庘庛庝庡+3庨+4庮+4庴庺+3庿+6",
    "廆+2廋+5廔廕廗+3廜+11廩廫+8廵廸廹廻+2弅+2弉弌+2弐弒弔弖弙弚弜+2弡+3_1弨弫弬弮弰弲+6弻弽+2彁+14彑彔彙+3彞+2彣彥彧彨彫彮彯彲彴+2彸彺彽+2徃徆徍+2徑従徔徖徚徛徝+3徢+5復徫徬徯+5徶徸+3徾+4忇忈忊忋忎忓+2忚+2忞忟忢忣忥忦忨忩忬忯忰忲+2忶忷忹忺忼怇",
    "怈怉怋怌怐怑怓怗怘怚怞怟怢+2怬+2怰+4怶+4怽怾恀恄+6恌恎恏恑恓恔恖+2恛恜恞+3恥恦恮恱恲恴恵恷恾悀_1悁悂悅+3悊悋悎+3悓悕悗+2悜悞悡悢悤悥悧悩悪悮悰悳悵+2悹悺悽+7惇+2惌+4惒+2惖惗惙惛惞惡+4惪惱惲惵惷惸惻+4愂+3愇愊+2愐+4愖+3愛+3愡愢愥愨+2愬+18慀+6",
    "慇慉態慍慏慐慒+2慖+6慞+3慣+3慩+6慱+3慶慸+18憌憍憏+4憕_1憖+6憞+8憪憫憭+9憸+5憿+2懃+4應懌+4懓懕+16懧+13懶+8戀+5戇戉戓戔戙戜+2戠戣戦+3戫戭戯+3戵戶戸+4扂扄+2扊",
    "扏扐払+2扙扚扜+6扤扥扨扱扲扴扵扷扸扺扻扽抁+2抅+3抋+5抔抙抜+2抣抦抧抩抪抭+3抲+2抶+2抺抾拀拁_1拃拋拏拑拕拝拞拠拡拤拪拫拰拲拵拸+3挀挃+3挊+3挏挐挒+3挗+2挜挦挧挩挬+2挰挱挳+5挻挼挾+3捄捇捈捊捑+3捖+7捠捤+2捨捪+2捯捰捲+3捸捹捼+3掁掃+3掋掍掑掓+2掗掙+6採掤掦掫掯掱掲掵掶掹掻掽掿揀",
    "揁+2揅揇揈揊+2揑揓+2揗+6揟揢揤+4揫揬揮+3揳揵揷揹+3揾搃搄搆+4損搎搑搒搕+5搝搟搢+2_1搥搧+2搫搮+5搵+4搻搼搾摀摂摃摉摋+6摓摕+2摙+4摟+7摨摪+2摮+9摻+6撃撆撈+8撓撔撗撘撚+3撟+4撥+3撪撫撯撱+3撶撹撻撽+2擁擃擄擆+6擏擑擓+3擙據",
    "擛+2擟+2擣擥擧+24攁+7攊+7攓+4攙+8_1攢+2攦+4攬攭攰+3攷攺攼攽敀+4敆敇敊敋敍敎敐敒+2敗敘敚敜敟+2敤敥敧+3敭+2敱敳敵敶數+14斈+2斍+2斒斔+2斘斚斝斞斠斢斣斦斨斪斬斮斱+7斺斻斾+2旂旇+3旍旐旑旓+2旘+7旡旣旤旪旫",
    "旲+3旸旹旻+4昁昄昅昇+2昋昍昐+2昖+2昚+2昞昡+3昦昩+3昮昰昲昳昷+4昽昿晀時晄+6晍晎晐晑晘_1晙晛+3晠晢晣晥晧晩+4晱+2晵晸晹晻+2晿+2暃暅暆暈+3暍+3暒+3暘+4暞+8暩+4暯+4暵+3暺+3暿+25曚曞+7曧曨曪+5曱曵曶書曺曻曽朁+2",
    "朄+3朌朎朏朑+2朖朘+2朜朞朠+5朧朩朮朰朲朳朶+3朻朼朾朿杁杄杅杇杊杋杍杒杔杕杗+4杝杢+2杦杧杫杬杮東杴杶_1杸+3杽枀枂枃枅枆枈枊枌+3枑+3枖枙枛枟+2枤枦枩枬枮枱枲枴枹+7柂柅+9柕+2柛柟柡柣柤柦+2柪柫柭柮柲柵+7柾栁+3栆栍栐栒栔栕栘+4栞+2栢+6栫+6栴+2栺栻栿桇桋桍桏桒桖+5",
    "桜+3桪桬+7桵桸+8梂梄梇+7梐+2梔+2梘+9梣+2梩+3梮梱梲梴梶+2_1梹+6棁棃+5棊棌棎+3棓棔棖棗棙棛+4棡棢棤+9棯棲+2棶+2棻棽+3椂+2椆+4椌椏椑椓+11椡+2椥+7椮椯椱+2椵+3椺+2椾楀楁楃+16楕楖楘楙楛楜楟",
    "楡楢楤楥楧+3楬業楯楰楲+4楺楻楽+2榁榃榅榊+2榎+5榖榗榙榚榝+9榩榪榬榮+2榲榳榵榶榸+2榼榽_1榾+2槂+7構槍槏槑+2槕+5槜+2槡+11槮+3槳+9槾樀+9樋+11標+5樠樢+5権樫+3樰樲+2樶+6樿+4橅橆橈+7橑+6橚",
    "橜+4橢+2橦+10橲+6橺橻橽+2檁+2檅+8檏檒+4檘+7檡+5_1檧檨檪檭+114欥欦欨+6",
    "欯+2欳+3欸欻+2欿+3歄歅歈歊歋歍+11歚+7歨歩歫+13歺歽+3殅殈_1殌殎+3殔殕殗+2殜+4殢+7殫+7殶殸+6毀毃毄毆+4毌毎毐毑毘毚毜+4毢+7毬+2毰+2毴毶+2毺+2毾+6氈+4氎氒気氜+2氠氣氥氫+2氱氳氶氷氹+3氾氿汃+2汈汋+4汑+2汖汘",
    "汙汚汢汣汥+2汫+4汱汳汵汷汸決+2汿沀沄沇沊沋沍沎沑沒沕+3沚沜+2沠沢沨沬沯沰沴+3沺泀+3泆+2泋泍+2泑泒泘_1泙泚泜泝泟泤泦泧泩泬泭泲泴泹泿洀洂洃洅洆洈+2洍洏+2洓+3洘洜洝洟+5洦洨洩洬洭洯洰洴洶+2洺洿浀浂浄浉浌浐浕+3浛浝浟浡浢浤浥浧浨浫+2浰+3浵浶浹+2浽+4涃涄涆涇涊涋涍涏涐涒涖+4涜涢涥涬涭涰涱涳涴涶涷涹+5淁+2淈+2",
    "淍+3淒+3淗淚+2淟淢淣淥淧+3淭淯淰淲淴+2淸淺淽+7渆+3渋渏渒渓渕渘渙減渜渞渟渢渦+2渪測渮渰渱渳渵_1渶渷渹渻+7湅+7湏+3湕湗湙湚湜+2湠+10湬湭湯+14満+2溄溇溈溊+4溑+6溙+2溝溞溠溡溣溤溦溨溩溫+3溰溳溵溸溹溼溾+2滃+3滈+2滌+2滐滒滖滘滙滛+2滣滧滪+5",
    "滰+3滵+3滺+7漃+2漇漈漊+4漐+2漖+9漡+2漥+3漬漮漰漲漴漵漷+6漿+3_1潃+2潈+2潌潎+9潙+2潝潟+2潣+2潧+5潯+2潳潵+2潹潻潽+6澅+2澊澋澏+12澝+3澢+4澨+10澴澵澷澸澺+5濁濃+5濊+6濓+10濟濢+3",
    "濦+7濰+32瀒+7瀜+6瀤+6_1瀫+9瀶+2瀺+17灍灎灐+13灟+11灮灱+3灷灹+2災炁+3炆+2炋+2炏+2炓炗炘炚炛炞+12炰炲炴+2為炾炿烄+3烉烋+12烚",
    "烜+2烠+3烥烪烮烰+6烸烺+2烾+10焋+4焑焒焔焗焛+10焧+7焲+2_1焵焷+13煆+3煋煍煏+12煝煟+4煥煩+4煯+2煴+3煹煻煼煾+5熅+4熋+3熐+3熕+2熚+4熡+6熩+2熭+5熴熶+2熺+8燄+9燏+4",
    "燖+9燡+3燦燨+5燯+9燺+11爇+19_1爛爜爞+9爩爫爭+2爲+2爺爼爾牀+6牉+2牎+3牓+2牗牘牚牜牞牠牣+2牨牪+3牰牱牳牴牶+2牻+2犂犃犅+4犌犎犐犑犓+11犠+11犮犱+2犵犺+6狅+2狉+3狏狑狓+3狘狚狛",
    "",
    "_97ⅰ+9",
    "",
    "",
    "",
    "_160︵︶︹︺︿﹀︽︾﹁+3_2︻︼︷︸︱_1︳︴",
    "",
    "ˊˋ˙–―‥‵℅℉↖+3∕∟∣≒≦≧⊿═+35▁+6_1█+7▓+2▼▽◢+3☉⊕〒〝〞_37ɑ_1ńň_1ɡ",
    "〡+8㊣㎎㎏㎜+2㎡㏄㏎㏑㏒㏕︰￢￤_1℡㈱_1‐_3ー゛゜ヽヾ〆ゝゞ﹉+9﹔+3﹙+8_1﹢+4﹨+3_13〇",
    "狜狝狟狢+5狪狫狵狶狹狽+3猂猄+5猋+2猏+3猔猘+2猟猠猣猤猦+2猭猯猰猲猳猵猶猺+3獀+8_1獉+3獎獏獑獓+3獘+7獡+10獮獰獱",
    "獲+11獿+4玅玆玈玊玌玍玏玐玒+3玗+3玜+2玠玡玣+5玪玬玭玱玴+2玸玹玼+3珁珃+4_1珋珌珎珒+6珚+3珟珡+3珦珨珪+2珮+3珳+4",
    "珸+10琄琇琈琋+3琑+8琜+5琣琤琧琩琫琭琯琱琲琷+4琽+3瑂+11_1瑎+6瑖瑘瑝瑠+12瑮瑯瑱+4瑸+2",
    "瑻+2瑿璂璄+2璈+2璌璍璏璑+10璝璟+7璪+15璻+12_1瓈+9瓓+8瓝瓟瓡瓥瓧+6瓰+2",
    "瓳瓵瓸+6甀+3甅+7甎甐甒甔+3甛甝甞甠+4甦甧甪甮甴甶甹甼甽甿畁+3畆畇畉畊畍畐+3畕+3_1畝+7畧+2畫+6畳畵+2畺+4疀+2疄疅疇",
    "疈+2疌+2疐疓疕疘疛疜疞疢疦+4疭疶疷疺疻疿+2痆痋痌痎+3痓痗痙痚痜痝痟+2痥痩痬+3痲痳痵+3痺痻痽痾瘂瘄瘆瘇_1瘈瘉瘋瘍+2瘑+3瘖瘚瘜+2瘡瘣瘧瘨瘬瘮瘯瘱瘲瘶瘷瘹+2瘽癁療癄",
    "癅+6癎+5癕癗+4癝癟+3癤+6癬+2癰+7癹発發癿+2皃皅皉皊皌皍皏皐皒皔皕皗皘皚皛_1皜+7皥+8皯皰皳皵+9盀盁盃",
    "盄盇盉盋盌盓盕盙盚盜+2盠+4盦+7盰盳盵+2盺盻盽盿眀眂眃眅眆眊県眎+10眛+3眡眣+2眧眪眫_1眬眮眰+4眹眻眽+2睂睄+2睈+7睒+7睜",
    "睝+3睤睧睩睪睭+11睺+2瞁+2瞆+5瞏瞐瞓+11瞡瞣瞤瞦瞨瞫瞭+2瞱瞲瞴瞶+4_1瞼瞾矀+12矎+8矘+2矝+4矤",
    "矦矨矪矯+3矴矵矷矹+3砃+5砊砋砎+2砓砕砙砛砞砠+2砤砨砪砫砮砯砱+2砵砶砽砿硁+3硆硈+3硍硏硑硓硔硘+2_1硛硜硞+11硯+7硸+3硽+6",
    "碄+2碈碊碋碏碐碒碔+2碙碝碞碠碢碤碦碨+7碵+3確+3碿磀磂+2磆+2磌+3磑+2磖+2磚+9_1磤+3磩+2磭+4磳磵磶磸磹磻+5礂+2礆+6",
    "礍+5礔+9礟+4礥+14礵+4礽礿祂+3祇祊+8祔祕祘祙祡祣_1祤祦祩+3祮祰+6祹祻+4禂禃禆+3禋+3禐+2",
    "禓+6禛+11禨+10禴+4禼禿秂秄秅秇秈秊秌秎+2秓秔秖秗秙+5秠+2秥秨秪_1秬秮秱+6秹秺秼秾秿稁稄稅稇+3稌稏+4稕稖稘稙稛稜",
    "稝稟稡稢稤+14稴+2稸稺稾穀+5穇+9穒+4穘+16_1穩+6穱+2穵穻+3窂窅窇窉+3窎+2窓窔窙+2窞窡窢",
    "窣窤窧窩+2窮+4窴+10竀+10竌+9竗竘竚+3竡竢竤竧+5竮竰+3_1竴+4竻竼竾笀+2笅笇笉笌+2笐笒笓笖+2笚笜笝笟笡+2笧笩笭",
    "笯笰笲笴+3笹笻笽笿+5筆筈筊筍筎筓筕筗筙筜筞筟筡筣+10筯筰筳筴筶筸筺筼筽筿箁+3箆+6箎箏_1箑+2箖箘+3箞+2箣+2箮+2箲箳箵+2箹+7篂+2",
    "篅篈+3篍+3篒篔+4篛篜篞+2篢+2篧+2篫+2篯篰篲+4篸+3篽篿+7簈+2簍簎簐+5簗+2_1簚+4簠+5簨簩簫+12簹+5籂",
    "籃+9籎+36籵+5籾+9_1粈粊+6粓粔粖粙+2粠粡粣粦+3粫+2粯粰粴+4粺粻",
    "粿糀糂+2糆糉糋糎+6糘糚糛糝糞糡+6糩+5糰+7糹糺糼+13紋+5_1紑+14紡紣+3紨+2紬+2細+6",
    "紷+54絯+7_1絸+32",
    "継+12綧+6綯+42_1線+32",
    "緻+62_1縺縼+4繂+4繈+21",
    "繞+35纃+23纜+2_1纮纴纻纼绖绤绬绹缊缐缞缷缹缻+6罃罆+9罒罓",
    "罖罙罛+3罠罣+4罫+2罯罰罳罵+3罺+3罿羀羂+7羋羍羏+4羕+4羛羜羠羢羣羥羦羨+6羱_1羳+4羺羻羾翀翂+2翆+3翋翍翏+4翖翗翙+5翢翣",
    "翤翧翨翪+3翯翲翴+6翽+2耂耇+3耎耏耑耓耚耛耝+2耡耣耤耫+5耲耴耹耺耼耾聀聁聄聅聇+2聎+3聓聕+2_1聙聛+13聫+5聲+11",
    "聾肁肂肅肈肊肍+5肔肕肗肙肞肣肦+2肬肰肳肵肶肸肹肻胅胇+4胏+6胘胟胠胢胣胦胮胵胷胹胻胾+3脃+2脇脈脋_1脌脕脗脙脛+2脟+12脭脮脰脳+2脷脹+4脿",
    "腀+5腇腉腍+2腒腖+2腛+4腡+3腦腨腪+2腯腲腳腵+3膁膃+4膉膋+3膐膒+5膙膚膞+4膤膥_1膧膩膫+7膴+5膼+3臄臅臇+2臋臍+6",
    "臔+14臤+2臨臩臫臮+4臵+5臽臿舃與+4舎舏舑舓舕+5舝舠舤+3舩舮舲舺舼舽舿_1艀+3艅艆艈艊艌+2艐+7艙艛+3艠+7艩",
    "艪+3艱艵+3艻艼芀芁芃芅+2芉芌芐芓+3芚芛芞芠芢芣芧芲芵芶芺+2芿苀苂苃苅苆苉苐苖苙苚苝苢苧+3苬+2苰苲苳苵苶苸_1苺苼+4茊茋茍茐茒茓茖茘茙茝+9茩茪茮茰茲茷茻茽",
    "茾茿荁荂荄荅荈荊+4荓荕+4荝荢荰+6荹荺荾+6莇莈莊+3莏+2莔+3莙莚莝莟莡+6莬+2_1莯莵莻莾莿菂+2菆菈菉菋菍菎菐+3菕菗菙+2菞菢+2菦+2菫+2",
    "菮華菳+4菺+2菾+2萂萅萇+3萐萒+5萙+2萞+5萩+7萲+5萹+2萾+7葇+2_1葊+6葒+4葘葝+3葢葤+4葪葮+2葲葴葷葹葻葼",
    "葽+4蒃+3蒊蒍蒏+7蒘蒚蒛蒝+3蒢+12蒰蒱蒳蒵+2蒻蒼蒾蓀蓂蓃蓅+3蓋蓌蓎蓏蓒蓔蓕蓗_1蓘+4蓞蓡蓢蓤蓧+4蓭+2蓱+10蓽蓾蔀+2",
    "蔃+8蔍+3蔒蔔+2蔘蔙蔛+3蔠蔢+8蔭+9蔾+4蕄+3蕋+10_1蕗蕘蕚+3蕟+4蕥+2蕩+8蕳蕵+3蕼蕽蕿+2",
    "薂薃薆薈+6薐+10薝+6薥+2薩薫+2薱+5薸薺+6藂+6藊+4藑藒_1藔藖+5藝+6藥+3藪+14",
    "藹藺藼+2蘀+4蘆+10蘒+3蘗+15蘨蘪+13蘹+2蘽+3_1虁+11虒虓處+4虛+2號+2虣+7",
    "虭虯虰虲+6蚃+6蚎+4蚔蚖+5蚞+4蚥蚦蚫蚭蚮蚲蚳蚷+2蚻+4蛁+2蛅蛈蛌蛍蛒蛓蛕+2蛚蛜_1蛝蛠+3蛥+3蛪+2蛯蛵+2蛺+3蛿蜁蜄+2蜋蜌蜎+3蜔蜖",
    "蜙蜛蜝蜟蜠蜤蜦+2蜪+3蜯蜰蜲蜳蜵蜶蜸+2蜼蜽蝀+6蝊蝋蝍蝏+3蝔+2蝘蝚+5蝡蝢蝦+7蝯蝱+2蝵_1蝷+3蝿+2螄螆螇螉螊螌螎+4螔+2螘+6螠+4",
    "螥+2螩螪螮螰+2螴螶+3螻螼螾螿蟁+4蟇+2蟌+4蟔+6蟜+3蟡+3蟦+3蟫+2蟯+9_1蟺+3蟿+3蠄+5蠋+7蠔蠗+3蠜+4蠣",
    "蠤+13蠳+5蠺蠻蠽+2衁+2衆+5衎+5衕衖衘衚+6衦衧衪衭衯衱衳+3衸+2_1衻衼袀袃袆袇袉袊袌袎+3袓+2袗+4袝+4袣袥+5",
    "袬袮+2袲+4袸+3袽+3裃裄裇裈裊+3裏+2裓裖裗裚+4裠裡裦裧裩+6裲裵+2裺裻製裿+2褃+5_1褉褋+4褑褔+4褜+4褢+2褦+3褬+3褱+2褵褷",
    "褸+8襂襃襅+24襠+5襧+19襼_1襽襾覀覂覄覅覇+26",
    "覢+30觃觍觓+2觗+2觛觝觟+3觤觧+3觬+2觰+2觴+6_1觻+4訁+5計+21",
    "訞+31訿+8詉+21_1詟+25詺+6",
    "誁+7誋+7誔+46_1諃+32",
    "諤+34謈+27_1謤謥謧+30",
    "譆+31譧+4譭+25_1讇+24讬讱讻诇诐诪谉谞",
    "谸+8豂+3豈豊豋豍+7豖+3豛+5豣+6豬+6豴+3豻+6貃貄貆貇_1貈貋貍+6貕+2貙+20",
    "貮+62_1賭+32",
    "贎+14贠赑赒赗赟赥赨+2赬赮赯赱赲赸+8趂趃趆+3趌+4趒趓趕+9趠趡_1趢趤+12趲趶趷趹趻趽跀+2跅跇+3跍跐跒+2",
    "跕跘跙跜跠+2跥+2跩跭跮跰+2跴跶跼跾+6踆+2踋踍踎踐+3踕+7踠踡踤+4踫踭踰踲+2踶+2踻踼踾_1踿蹃蹅蹆蹌+4蹓+5蹚+11蹧蹨蹪蹫蹮蹱",
    "蹳蹵蹷+4蹽蹾躀躂+2躆躈+6躑+2躕+6躝躟+11躭躮躰躱躳+6躻+7_1軃+10軏+21",
    "軥+62_1輤+32",
    "轅+32轪辀辌辒辝辠+2辤+3辪辬+3農+3辷辸辺+2辿迀迃迆_1迉+4迏迒迖迗迚迠迡迣迧迬迯迱迲迴+2迺+2迾迿逇逈逌逎逓逕逘",
    "這逜連+2逧+5逰+4逷逹逺逽逿遀遃遅遆遈+4過達+2遙遚遜+5遤遦遧適+3遯+4遶+6遾邁_1還+3邉邊邌+4邒邔邖邘邚邜邞+2邤邥邧+2邫邭邲邷邼邽邿郀",
    "郂郃郆郈郉郋+2郒郔+2郘+2郞+2郣+2郩郪郬郮郰+3郵+2郹+3郿+2鄃鄅+19鄚+2_1鄝鄟+2鄤+10鄰鄲+6鄺+8酄",
    "酅酇酈酑酓+3酘酙酛酜酟酠酦+2酫酭酳酺+2醀+4醆醈醊醎醏醓+6醜+5醤+5醫醬醰+3醶+3醻_1醼+10釈釋釐釒+9針+8",
    "釦+62_1鈥+32",
    "鉆+45鉵+16_1銆+7銏+24",
    "銨+5銯+24鋉+31_1鋩+32",
    "錊+51錿+10_1鍊+31鍫",
    "鍬+34鎐+27_1鎬+29鏋+2",
    "鏎+7鏗+54_1鐎+32",
    "鐯+14鐿+43鑬+3_1鑰+20钑钖钘铇铏铓铔铚铦铻锜锠",
    "锧锳锽镃镈镋镕镚镠镮镴镵長+7門+42_1閫+32",
    "闌+27闬闿阇阓阘阛阞阠阣+6阫+2阯阰阷+3阾陁陃陊陎陏陑+2陖陗_1陘+2陜+2陠陣陥陦陫陭+4陳陸+12隇隉隊",
    "隌階隑+2隕隖隚際隝+9隨+7隱隲隴隵隷隸隺隻隿雂雃雈雊雋雐雑雓雔雖+9雡+6雫_1雬+2雰+2雴雵雸雺+3雿霂霃霅霊+2霐+2霔霕霗+4霝霟霠",
    "霡+8霫霬霮霯霱霳+4霺+3霿+18靔靕靗靘靚靜靝靟靣靤靦+2靪+7_1靲靵靷+4靽+7鞆+4鞌鞎+2鞓鞕+2鞙+4",
    "鞞鞟鞡鞢鞤+6鞬鞮鞰鞱鞳鞵+46_1韤韥韨韮+4韴韷+23",
    "頏+62_1顎+32",
    "顯+5颋颎颒颕颙颣風+37飏飐飔飖飗飛+2飠+4_1飥飦飩+30",
    "餈+4餎餏餑+28餯+26_1饊+9饖+12饤饦饳饸饹饻饾馂馃馉",
    "馌馎馚+10馦馧馩+47_1駙+32",
    "駺+62_1騹+32",
    "驚+17驲骃骉骍骎骔骕骙骦骩+6骲+3骹骻骽+2髃髄髆+4髍+3髒體+3髙+3_1髝髞髠髢+3髧+3髬髮髰+8髺髼+6鬄+2",
    "鬇鬉+5鬐+2鬔+10鬠+2鬤+10鬰鬱鬳+7鬽+3魆魊+2魎魐魒魓魕+5_1魛+32",
    "魼+62_1鮻+32",
    "鯜+62_1鰛+32",
    "鰼+62_1鱻鱽鱾鲀鲃鲄鲉鲊鲌鲏鲓鲖+3鲝鲪鲬鲯鲹鲾+4鳈鳉鳑鳒鳚鳛鳠鳡",
    "鳣+62_1鴢+32",
    "鵃+62_1鶂+32",
    "鶣+62_1鷢+32",
    "鸃+27鸤鸧鸮鸰鸴鸻鸼鹀鹍鹐鹒+2鹖鹙鹝鹟+3鹥鹮鹯鹲鹴+9麀_1麁麃+3麉麊麌+5麔+8麞麠+5麧+3",
    "麫+8麵+2麹麺麼麿+4黅+3黊+2黐黒黓黕+2黙黚點黡黣黤黦黨黫+3黰+8黺黽黿+6_1鼆+4鼌鼏鼑鼒鼔+2鼘鼚+5鼡鼣+8鼭鼮鼰鼱",
    "鼲+4鼸鼺鼼鼿+4齅+10齒+38_1齹+5龁龂龍+11龜+2龡+4郎凉秊裏隣",
    "兀+3﨑﨓﨔礼﨟+2﨣﨤﨧+2"]

/-- The two-byte cells of GB 18030 outside GBK. -/
def gb18030Table : Grid := Grid.ofRows 0x81 0x40 191 [
    "",
    "",
    "",
    "",
    "",
    "",
    "",
    "",
    "",
    "",
    "",
    "",
    "",
    "",
    "",
    "",
    "",
    "",
    "",
    "",
    "",
    "",
    "",
    "",
    "",
    "",
    "",
    "",
    "",
    "",
    "",
    "",
    "\uE4C6+62_1\uE505+32",
    "\uE526+62_1\uE565+32_10\uE766+5_50€\uE76D_10\uE76E\uE76F_12\uE770\uE771",
    "\uE586+62_1\uE5C5+32",
    "\uE5E6+62_1\uE625+32_83\uE772+10",
    "\uE646+62_1\uE685+32_86\uE77D+7",
    "\uE6A6+62_1\uE6E5+32_24\uE785+7_24\uE78D+6_12\uE794\uE795_5\uE796_2\uE797+8",
    "\uE706+62_1\uE745+32_33\uE7A0+14_33\uE7AF+12",
    "_86\uE7BC+10_27\uE7C7_2ǹ_1\uE7C9+3_37\uE7CD+20",
    "_24\uE7E2_2\uE7E3_1\uE7E4+2_41〾⿰+11_1\uE7F4+12_76\uE801+14",
    "_97\uE000+93",
    "_97\uE05E+93",
    "_97\uE0BC+93",
    "_97\uE11A+93",
    "_97\uE178+93",
    "_97\uE1D6+93",
    "",
    "",
    "",
    "",
    "",
    "",
    "",
    "",
    "",
    "",
    "",
    "",
    "",
    "",
    "",
    "",
    "",
    "",
    "",
    "",
    "",
    "",
    "",
    "",
    "",
    "",
    "",
    "",
    "",
    "",
    "",
    "",
    "",
    "",
    "",
    "",
    "",
    "",
    "",
    "_186\uE810+4",
    "",
    "",
    "",
    "",
    "",
    "",
    "",
    "",
    "",
    "",
    "",
    "",
    "",
    "",
    "",
    "",
    "",
    "",
    "",
    "",
    "",
    "",
    "",
    "",
    "",
    "",
    "",
    "",
    "",
    "",
    "",
    "",
    "_97\uE234+93",
    "_97\uE292+93",
    "_97\uE2F0+93",
    "_97\uE34E+93",
    "_97\uE3AC+93",
    "_97\uE40A+93",
    "_16⺁\uE816+2⺄㑳㑇⺈⺋\uE81E㖞㘚㘎⺌⺗㥮㤘\uE826㧏㧟㩳㧐\uE82B\uE82C㭎㱮㳠⺧\uE831\uE832⺪䁖䅟⺮䌷⺳⺶⺷\uE83B䎱䎬⺻䏝䓖䙡䙌\uE843_1䜣䜩䝼䞍⻊䥇䥺䥽䦂䦃䦅䦆䦟䦛䦷䦶\uE854\uE855䲣䲟+2䱷䲢䴓+6䶮\uE864\uE468+93"]

/-- The four-byte sequences of GB 18030 below U+10000, as runs: the index of the
first sequence of a run and the code point it stands for. -/
def gb18030Ranges : List (Nat × Nat) := [
  (0, 0x0080), (36, 0x00A5), (38, 0x00A9), (45, 0x00B2), (50, 0x00B8), (81, 0x00D8),
  (89, 0x00E2), (95, 0x00EB), (96, 0x00EE), (100, 0x00F4), (103, 0x00F8), (104, 0x00FB),
  (105, 0x00FD), (109, 0x0102), (126, 0x0114), (133, 0x011C), (148, 0x012C), (172, 0x0145),
  (175, 0x0149), (179, 0x014E), (208, 0x016C), (306, 0x01CF), (307, 0x01D1), (308, 0x01D3),
  (309, 0x01D5), (310, 0x01D7), (311, 0x01D9), (312, 0x01DB), (313, 0x01DD), (341, 0x01FA),
  (428, 0x0252), (443, 0x0262), (544, 0x02C8), (545, 0x02CC), (558, 0x02DA), (741, 0x03A2),
  (742, 0x03AA), (749, 0x03C2), (750, 0x03CA), (805, 0x0402), (819, 0x0450), (820, 0x0452),
  (7922, 0x2011), (7924, 0x2017), (7925, 0x201A), (7927, 0x201E), (7934, 0x2027), (7943, 0x2031),
  (7944, 0x2034), (7945, 0x2036), (7950, 0x203C), (8062, 0x20AD), (8148, 0x2104), (8149, 0x2106),
  (8152, 0x210A), (8164, 0x2117), (8174, 0x2122), (8236, 0x216C), (8240, 0x217A), (8262, 0x2194),
  (8264, 0x219A), (8374, 0x2209), (8380, 0x2210), (8381, 0x2212), (8384, 0x2216), (8388, 0x221B),
  (8390, 0x2221), (8392, 0x2224), (8393, 0x2226), (8394, 0x222C), (8396, 0x222F), (8401, 0x2238),
  (8406, 0x223E), (8416, 0x2249), (8419, 0x224D), (8424, 0x2253), (8437, 0x2262), (8439, 0x2268),
  (8445, 0x2270), (8482, 0x2296), (8485, 0x229A), (8496, 0x22A6), (8521, 0x22C0), (8603, 0x2313),
  (8936, 0x246A), (8946, 0x249C), (9046, 0x254C), (9050, 0x2574), (9063, 0x2590), (9066, 0x2596),
  (9076, 0x25A2), (9092, 0x25B4), (9100, 0x25BE), (9108, 0x25C8), (9111, 0x25CC), (9113, 0x25D0),
  (9131, 0x25E6), (9162, 0x2607), (9164, 0x260A), (9218, 0x2641), (9219, 0x2643), (11329, 0x2E82),
  (11331, 0x2E85), (11334, 0x2E89), (11336, 0x2E8D), (11346, 0x2E98), (11361, 0x2EA8), (11363, 0x2EAB),
  (11366, 0x2EAF), (11370, 0x2EB4), (11372, 0x2EB8), (11375, 0x2EBC), (11389, 0x2ECB), (11682, 0x2FFC),
  (11686, 0x3004), (11687, 0x3018), (11692, 0x301F), (11694, 0x302A), (11714, 0x303F), (11716, 0x3094),
  (11723, 0x309F), (11725, 0x30F7), (11730, 0x30FF), (11736, 0x312A), (11982, 0x322A), (11989, 0x3232),
  (12102, 0x32A4), (12336, 0x3390), (12348, 0x339F), (12350, 0x33A2), (12384, 0x33C5), (12393, 0x33CF),
  (12395, 0x33D3), (12397, 0x33D6), (12510, 0x3448), (12553, 0x3474), (12851, 0x359F), (12962, 0x360F),
  (12973, 0x361B), (13738, 0x3919), (13823, 0x396F), (13919, 0x39D1), (13933, 0x39E0), (14080, 0x3A74),
  (14298, 0x3B4F), (14585, 0x3C6F), (14698, 0x3CE1), (15583, 0x4057), (15847, 0x4160), (16318, 0x4338),
  (16434, 0x43AD), (16438, 0x43B2), (16481, 0x43DE), (16729, 0x44D7), (17102, 0x464D), (17122, 0x4662),
  (17315, 0x4724), (17320, 0x472A), (17402, 0x477D), (17418, 0x478E), (17859, 0x4948), (17909, 0x497B),
  (17911, 0x497E), (17915, 0x4984), (17916, 0x4987), (17936, 0x499C), (17939, 0x49A0), (17961, 0x49B8),
  (18664, 0x4C78), (18703, 0x4CA4), (18814, 0x4D1A), (18962, 0x4DAF), (19043, 0x9FA6), (33469, 0xE76C),
  (33470, 0xE7C8), (33471, 0xE7E7), (33484, 0xE815), (33485, 0xE819), (33490, 0xE81F), (33497, 0xE827),
  (33501, 0xE82D), (33505, 0xE833), (33513, 0xE83C), (33520, 0xE844), (33536, 0xE856), (33550, 0xE865),
  (37845, 0xF92D), (37921, 0xF97A), (37948, 0xF996), (38029, 0xF9E8), (38038, 0xF9F2), (38064, 0xFA10),
  (38065, 0xFA12), (38066, 0xFA15), (38069, 0xFA19), (38075, 0xFA22), (38076, 0xFA25), (38078, 0xFA2A),
  (39108, 0xFE32), (39109, 0xFE45), (39113, 0xFE53), (39114, 0xFE58), (39115, 0xFE67), (39116, 0xFE6C),
  (39265, 0xFF5F), (39394, 0xFFE6)]

end MaskedLog.Text
